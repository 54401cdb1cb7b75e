import ActivityReport.Proofs.Store.Latest
import Mathlib

/-!
# Totals of rows

What the totals that rows carry say of a store in which they are right. The latest row that a key sees has
the sum of the counter over all rows that the key sees (`Store.WellKeyed.total_of_latestRow?`), and the sum
over the days of a window is the difference of two such sums (`Store.sumOn_covers_inPeriod`).
-/

namespace ActivityReport

/-- The days of a window over which a span is taken, the first and the last one included. -/
def Window.covers (w : Window) (span : Span) (d : Date) : Bool :=
  match span with
  | .inPeriod => decide (d ≤ w.finish) && w.start.all (· ≤ d)
  | .sinceRegistration => d ≤ w.finish

/-- With a day a side admits all earlier ones. -/
lemma Boundary.admits_of_le {b : Boundary} {target day earlier : Date} (le : earlier ≤ day)
    (h : b.admits target day = true) : b.admits target earlier = true := by
  cases b with
  | finish => exact decide_eq_true (Nat.le_trans le (of_decide_eq_true h))
  | before => exact decide_eq_true (Nat.lt_of_le_of_lt le (of_decide_eq_true h))

namespace Store

/-- Whether the totals of a store are right can be worked out counter by counter. -/
instance (s : Store) : Decidable s.Consistent :=
  decidable_of_iff (∀ r ∈ s.counters, ∀ c ∈ Counter.all,
      r.toDate c = ((s.rowsOf r.subject r.scope).filter (·.date < r.date)).foldr (·.daily c + ·) 0)
    ⟨fun each r listed c => each r listed c c.mem_all, fun all r listed c _ => all r listed c⟩

/-- The sum of a counter over the rows of a subject and scope that lie on some days. -/
def sumOn (s : Store) (subject : Option Int) (scope : Scope) (counter : Counter) (days : Date → Bool) : Int :=
  (((s.rowsOf subject scope).filter fun row => days row.date).map (·.daily counter)).sum

variable {s : Store} {subject : Option Int} {scope : Scope} {counter : Counter}

/-- Where the rows lie on days of two kinds, the sum over them is the sum of two sums. -/
lemma sumOn_eq_add {days first second : Date → Bool}
    (both : ∀ row ∈ s.rowsOf subject scope, days row.date = (first row.date || second row.date))
    (apart : ∀ row ∈ s.rowsOf subject scope, (first row.date && second row.date) = false) :
    s.sumOn subject scope counter days = s.sumOn subject scope counter first + s.sumOn subject scope counter second := by
  unfold sumOn
  generalize s.rowsOf subject scope = rows at both apart
  induction rows with
  | nil => rfl
  | cons row rest ih =>
    have others := ih (fun row listed => both row (List.mem_cons_of_mem _ listed))
      (fun row listed => apart row (List.mem_cons_of_mem _ listed))
    have here := both row List.mem_cons_self
    have once := apart row List.mem_cons_self
    simp only [List.filter_cons, here]
    cases inFirst : first row.date <;> cases inSecond : second row.date
    case true.true =>
      rw [inFirst, inSecond] at once
      cases once
    all_goals
      simp only [Bool.or_self, Bool.or_true, Bool.or_false, Bool.false_eq_true, if_true, if_false, List.map_cons,
        List.sum_cons]
      omega

/-- The total that a row carries is the sum over the days before it. -/
lemma Consistent.toDate_eq (consistent : s.Consistent) {row : CounterRow} (listed : row ∈ s.counters) :
    row.toDate counter = s.sumOn row.subject row.scope counter (· < row.date) := by
  rw [consistent row listed counter, sumOn, List.sum_eq_foldr, List.foldr_map]

/-- On the day of a row the sum is the value of the row. -/
lemma WellKeyed.sumOn_day (keyed : s.WellKeyed) {row : CounterRow} (listed : row ∈ s.counters) :
    s.sumOn row.subject row.scope counter (· == row.date) = row.daily counter := by
  rw [sumOn, keyed.rowsOf_day listed, List.map_singleton, List.sum_singleton]

variable {k : SnapshotKey} {actorId : Int} {row : CounterRow}

/-- The total as of the latest row that a key sees is the sum over all rows that it sees. -/
theorem WellKeyed.total_of_latestRow? (keyed : s.WellKeyed) (consistent : s.Consistent)
    (latest : s.latestRow? k actorId = some row) :
    row.toDate counter + row.daily counter =
      s.sumOn (subjectFor k.dimension actorId) k.scope counter (k.boundary.admits k.date) := by
  obtain ⟨listed, seen, last⟩ := latestRow?_eq_some latest
  obtain ⟨own, admitted⟩ := mem_rowsOf_sees.2 ⟨listed, seen⟩
  simp only [rowsOf, List.mem_filter, Bool.and_eq_true, beq_iff_eq] at own
  obtain ⟨-, subject, scope⟩ := own
  rw [consistent.toDate_eq listed, ← keyed.sumOn_day listed, subject, scope]
  refine (sumOn_eq_add (fun other mine => ?_) (fun other mine => ?_)).symm
  · -- the key sees the rows up to the latest one, and no others
    rw [Bool.eq_iff_iff, Bool.or_eq_true, decide_eq_true_eq, beq_iff_eq]
    constructor
    · intro admitted'
      obtain ⟨listed', seen'⟩ := mem_rowsOf_sees.1 ⟨mine, admitted'⟩
      have le := last other listed' seen'
      rcases Nat.lt_or_eq_of_le (Date.le_def.1 le) with lt | eq
      · exact Or.inl (Date.lt_def.2 lt)
      · exact Or.inr (Date.le_antisymm le (Date.le_def.2 (Nat.le_of_eq eq.symm)))
    · rintro (earlier | same)
      · exact Boundary.admits_of_le (Nat.le_of_lt earlier) admitted
      · rwa [same]
  · simp only [Bool.and_eq_false_iff, decide_eq_false_iff_not, beq_eq_false_iff_ne]
    by_cases same : other.date = row.date
    · exact Or.inl (same ▸ Nat.lt_irrefl _)
    · exact Or.inr same

/-- Where a key sees no row the sum over what it sees is 0. -/
lemma sumOn_of_latestRow?_eq_none (none : s.latestRow? k actorId = none) :
    s.sumOn (subjectFor k.dimension actorId) k.scope counter (k.boundary.admits k.date) = 0 := by
  have unseen : (s.rowsOf (subjectFor k.dimension actorId) k.scope).filter
      (fun row => k.boundary.admits k.date row.date) = [] := by
    rw [List.filter_eq_nil_iff]
    intro row own admitted
    obtain ⟨listed, seen⟩ := mem_rowsOf_sees.1 ⟨own, admitted⟩
    rw [latestRow?_eq_none_iff.1 none row listed] at seen
    cases seen
  rw [sumOn, unseen]
  rfl

/-! ## Sums over a window -/

variable {w : Window}

/-- Since registration a sum goes up to the last day. -/
lemma sumOn_covers_sinceRegistration :
    s.sumOn subject scope counter (w.covers .sinceRegistration) =
      s.sumOn subject scope counter (Boundary.finish.admits w.finish) := rfl

/-- Without a first day the sum over a window goes up to the last day. -/
lemma sumOn_covers_of_no_start (span : Span) (none : w.start = none) :
    s.sumOn subject scope counter (w.covers span) =
      s.sumOn subject scope counter (Boundary.finish.admits w.finish) := by
  cases span with
  | inPeriod =>
    congr 1
    funext day
    rw [Window.covers, none, Option.all_none, Bool.and_true]
    rfl
  | sinceRegistration => rfl

/-- The sum over a window with a first day is what the sum up to the last day exceeds the one before the first
day by. -/
lemma sumOn_covers_inPeriod {first : Date} (start : w.start = some first) (ordered : first ≤ w.finish) :
    s.sumOn subject scope counter (w.covers .inPeriod) =
      s.sumOn subject scope counter (Boundary.finish.admits w.finish) -
        s.sumOn subject scope counter (Boundary.before.admits first) := by
  have split : s.sumOn subject scope counter (Boundary.finish.admits w.finish) =
      s.sumOn subject scope counter (w.covers .inPeriod) + s.sumOn subject scope counter (Boundary.before.admits first) := by
    rw [Date.le_def] at ordered
    refine sumOn_eq_add (fun row _ => Bool.eq_iff_iff.2 ?_) (fun row _ => Bool.eq_false_iff.2 ?_)
    · simp only [Window.covers, Boundary.admits, start, Option.all_some, Bool.or_eq_true, Bool.and_eq_true,
        decide_eq_true_eq, Date.le_def, Date.lt_def]
      omega
    · simp only [Window.covers, Boundary.admits, start, Option.all_some, Bool.and_eq_true, ne_eq,
        decide_eq_true_eq, Date.le_def, Date.lt_def]
      omega
  omega

end Store

end ActivityReport
