import ActivityReport.Proofs.Query.Matching
import ActivityReport.Proofs.Store.Totals

/-!
# Tallies

What a counter column counts (`Column.measures`) and what the store has to say on it: the sum of the daily
values over the days of the span (`Store.tally`). The query does not add days up, it reads totals at both
ends of the window. In a store whose totals are right the two agree (`Store.readTally_eq_tally`) as long as no
row of a log filter is lost; a lost row counts as none (`Store.readTotal`).
-/

namespace ActivityReport

open Number (fitsWord)

/-- What is counted: a counter over the days of a span, summed over some scopes. -/
structure Measure where
  dimension : Dimension
  counter : Counter
  span : Span
  scopes : List Scope

/-- The quotient of two whole numbers as doubles; there is none by 0. -/
def Cell.quotient (a b : Int) : Cell := if b = 0 then .null else .float (Number.ofInt a / Number.ofInt b)

namespace Column

/-- What a counter column counts, and what it divides that by. -/
def measures (c : Column) : List Measure :=
  match c.type with
  | .count counter span .none _ => [⟨.actor, counter, span, c.scopes⟩]
  | .count counter span .wikiTotal _ => [⟨.actor, counter, span, c.scopes⟩, ⟨.wiki, counter, span, c.scopes⟩]
  | .count counter span .ownTotalEdits _ => [⟨.actor, counter, span, c.scopes⟩, ⟨.actor, .edits, span, [.whole]⟩]
  | .averagePerDay counter span => [⟨.actor, counter, span, [.whole]⟩, ⟨.actor, .activeDays, span, [.whole]⟩]
  | _ => []

/-- What a counter column shows when its measures have some values. -/
def counted? (c : Column) (value : Measure → Int) : Option Cell :=
  match c.measures with
  | [m] => some (.int (value m))
  | [m, whole] => some (.quotient (value m) (value whole))
  | _ => none

end Column

namespace Measure

/-- The sum that a query works out for a measure. -/
def sum (m : Measure) (w : Window) : Sum := w.overScopes m.dimension m.span m.counter m.scopes

/-- The keys under which the totals of a measure are read in one scope. -/
def keysIn (m : Measure) (w : Window) (scope : Scope) : List SnapshotKey :=
  ⟨m.dimension, .finish, w.finish, scope⟩ ::
    match m.span with
    | .inPeriod => w.start.toList.map (⟨m.dimension, .before, ·, scope⟩)
    | .sinceRegistration => []

/-- The keys under which the totals of a measure are read. -/
def keys (m : Measure) (w : Window) : List SnapshotKey := m.scopes.flatMap (m.keysIn w)

end Measure

namespace Store

/-- What the store says of a measure: the daily values on the days of its span, in all of its scopes together. -/
def tally (s : Store) (w : Window) (actorId : Int) (m : Measure) : Int :=
  (m.scopes.map fun scope => s.sumOn (subjectFor m.dimension actorId) scope m.counter (w.covers m.span)).sum

/-- The total that is read under a key: the sum over the rows that the key sees, or 0 where the row is lost. -/
def readTotal (s : Store) (actorTable : String) (actorId : Int) (counter : Counter) (k : SnapshotKey) : Int :=
  if s.loses actorTable k actorId then 0
  else s.sumOn (subjectFor k.dimension actorId) k.scope counter (k.boundary.admits k.date)

/-- What is read for a measure in one scope: the total at the last day, less the one before the first day. -/
def readIn (s : Store) (actorTable : String) (w : Window) (actorId : Int) (m : Measure) (scope : Scope) : Int :=
  let total := s.readTotal actorTable actorId m.counter
  match m.span with
  | .inPeriod => total ⟨m.dimension, .finish, w.finish, scope⟩ -
      w.start.elim 0 fun first => total ⟨m.dimension, .before, first, scope⟩
  | .sinceRegistration => total ⟨m.dimension, .finish, w.finish, scope⟩

/-- What is read for a measure in all of its scopes together. -/
def readTally (s : Store) (actorTable : String) (w : Window) (actorId : Int) (m : Measure) : Int :=
  (m.scopes.map (s.readIn actorTable w actorId m)).sum

/-- Whether all that is read for a measure fits a word: the totals, what is read in one scope and the sums
over the first scopes. -/
def TallyFits (s : Store) (actorTable : String) (w : Window) (actorId : Int) (m : Measure) : Prop :=
  (∀ k ∈ m.keys w, fitsWord (s.readTotal actorTable actorId m.counter k) = true) ∧
    (∀ scope ∈ m.scopes, fitsWord (s.readIn actorTable w actorId m scope) = true) ∧
    ∀ first ∈ m.scopes.inits, fitsWord (first.map (s.readIn actorTable w actorId m)).sum = true

instance (s : Store) (actorTable : String) (w : Window) (actorId : Int) (m : Measure) :
    Decidable (s.TallyFits actorTable w actorId m) := inferInstanceAs (Decidable (_ ∧ _ ∧ _))

variable {s : Store} {actorTable : String} {w : Window} {actorId : Int} {m : Measure}

/-- Where no row is lost, what is read in a scope is the sum over the days of the span. -/
lemma readIn_eq_sumOn (ordered : ∀ first ∈ w.start, first ≤ w.finish) {scope : Scope}
    (kept : ∀ k ∈ m.keysIn w scope, s.loses actorTable k actorId = false) :
    s.readIn actorTable w actorId m scope =
      s.sumOn (subjectFor m.dimension actorId) scope m.counter (w.covers m.span) := by
  have finish : s.readTotal actorTable actorId m.counter ⟨m.dimension, .finish, w.finish, scope⟩ =
      s.sumOn (subjectFor m.dimension actorId) scope m.counter (Boundary.finish.admits w.finish) := by
    rw [readTotal, kept _ List.mem_cons_self]
    rfl
  cases span : m.span with
  | sinceRegistration => simp only [readIn, span, finish, sumOn_covers_sinceRegistration]
  | inPeriod =>
    cases start : w.start with
    | none => simp only [readIn, span, start, finish, Option.elim_none, Int.sub_zero, sumOn_covers_of_no_start _ start]
    | some first =>
      have before : s.readTotal actorTable actorId m.counter ⟨m.dimension, .before, first, scope⟩ =
          s.sumOn (subjectFor m.dimension actorId) scope m.counter (Boundary.before.admits first) := by
        rw [readTotal, kept _ (by simp [Measure.keysIn, span, start])]
        rfl
      simp only [readIn, span, start, finish, before, Option.elim_some]
      exact (sumOn_covers_inPeriod start (ordered first start)).symm

/-- Where no row is lost, what is read for a measure is what the store says of it. -/
theorem readTally_eq_tally (ordered : ∀ first ∈ w.start, first ≤ w.finish)
    (kept : ∀ k ∈ m.keys w, s.loses actorTable k actorId = false) :
    s.readTally actorTable w actorId m = s.tally w actorId m := by
  refine congrArg List.sum (List.map_congr_left fun scope own => ?_)
  exact readIn_eq_sumOn ordered fun k listed => kept k (List.mem_flatMap.2 ⟨scope, own, listed⟩)

end Store

/-! ## Sums in whole numbers -/

namespace Sum

variable {r : JoinedRow}

/-- A chain of additions goes on with one more. -/
lemma ofList_concat {list : List Sum} (a : Sum) (nonempty : list ≠ []) :
    ofList (list ++ [a]) = plus (ofList list) a := by
  cases list with
  | nil => exact absurd rfl nonempty
  | cons first rest => simp [ofList, List.foldl_append]

/-- In whole numbers a sum of sums is their sum. -/
lemma exact_ofList (list : List Sum) : (ofList list).exact r = (list.map (exact r)).sum := by
  induction list using List.reverseRecOn with
  | nil => rfl
  | append_singleton list a ih =>
    cases list with
    | nil => simp [ofList]
    | cons first rest => rw [ofList_concat a (List.cons_ne_nil _ _), exact, ih, List.map_append, List.sum_append,
        List.map_singleton, List.sum_singleton]

/-- A sum of sums fits when its parts do and their sums from the first one on. -/
lemma fits_ofList {list : List Sum} (parts : ∀ a ∈ list, a.fits r = true)
    (sums : ∀ first, first <+: list → fitsWord (first.map (exact r)).sum = true) : (ofList list).fits r = true := by
  induction list using List.reverseRecOn with
  | nil => rfl
  | append_singleton list a ih =>
    have last : a.fits r = true := parts a (List.mem_append_right _ (List.mem_singleton_self a))
    -- a sum of one part is the part itself, and has no addition of its own
    cases list with
    | nil => exact last
    | cons first rest =>
      have before := ih (fun b listed => parts b (List.mem_append_left _ listed))
        (fun some start => sums some (start.trans (List.prefix_append _ _)))
      have whole := sums _ (List.prefix_refl _)
      rw [← exact_ofList, ofList_concat a (List.cons_ne_nil _ _)] at whole
      rw [ofList_concat a (List.cons_ne_nil _ _), fits, before, last, whole]
      rfl

end Sum

namespace Store.WellKeyed

variable {s : Store} {actorTable : String} {w : Window} {p : JoinPlan} {j : JoinedRow} {m : Measure}

/-- The total in a joined row is the one that is read under its key. -/
lemma exact_total (keyed : s.WellKeyed) (consistent : s.Consistent) (found : j ∈ s.joined actorTable p)
    {k : SnapshotKey} (planned : k ∈ p.snapshots) (counter : Counter) :
    (Sum.total k counter).exact j = s.readTotal actorTable j.actor.id counter k := by
  rw [Sum.exact, keyed.snapshot?_of_mem found planned, snapshotRow?, readTotal]
  by_cases lost : s.loses actorTable k j.actor.id = true
  · rw [if_pos lost, if_pos lost]
  · rw [if_neg lost, if_neg lost]
    cases latest : s.latestRow? k j.actor.id with
    | none => exact (sumOn_of_latestRow?_eq_none latest).symm
    | some row => exact keyed.total_of_latestRow? consistent latest

/-- What a row has for a measure in one scope is what is read. -/
lemma exact_overSpan (keyed : s.WellKeyed) (consistent : s.Consistent) (found : j ∈ s.joined actorTable p)
    {scope : Scope} (planned : ∀ k ∈ m.keysIn w scope, k ∈ p.snapshots) :
    (w.overSpan m.dimension m.span m.counter scope).exact j = s.readIn actorTable w j.actor.id m scope := by
  have total : ∀ k ∈ m.keysIn w scope,
      (Sum.total k m.counter).exact j = s.readTotal actorTable j.actor.id m.counter k :=
    fun k listed => keyed.exact_total consistent found (planned k listed) m.counter
  have finish : (w.atFinish m.dimension m.counter scope).exact j =
      s.readTotal actorTable j.actor.id m.counter ⟨m.dimension, .finish, w.finish, scope⟩ :=
    total _ List.mem_cons_self
  cases span : m.span with
  | sinceRegistration => simp only [Window.overSpan, readIn, span, finish]
  | inPeriod =>
    simp only [Window.overSpan, readIn, span, Sum.exact, finish, Window.atStart]
    cases start : w.start with
    | none => rfl
    | some first =>
      have before := total ⟨m.dimension, .before, first, scope⟩ (by simp [Measure.keysIn, span, start])
      rw [Option.elim_some, ← before]

/-- What a row has for a measure in one scope fits when what is read for it fits. -/
lemma fits_overSpan (keyed : s.WellKeyed) (consistent : s.Consistent) (found : j ∈ s.joined actorTable p)
    {scope : Scope} (planned : ∀ k ∈ m.keysIn w scope, k ∈ p.snapshots)
    (totals : ∀ k ∈ m.keysIn w scope, fitsWord (s.readTotal actorTable j.actor.id m.counter k) = true)
    (whole : fitsWord (s.readIn actorTable w j.actor.id m scope) = true) :
    (w.overSpan m.dimension m.span m.counter scope).fits j = true := by
  have total : ∀ k ∈ m.keysIn w scope, (Sum.total k m.counter).fits j = true := by
    intro k listed
    rw [Sum.fits, keyed.exact_total consistent found (planned k listed)]
    exact totals k listed
  have value := keyed.exact_overSpan consistent found planned
  cases span : m.span with
  | sinceRegistration => exact total _ List.mem_cons_self
  | inPeriod =>
    have start : (w.atStart m.dimension m.counter scope).fits j = true := by
      unfold Window.atStart
      cases start : w.start with
      | none => rfl
      | some first => exact total _ (by simp [Measure.keysIn, span, start])
    rw [span, Window.overSpan] at value
    rw [Window.overSpan, Sum.fits, value, whole, start, Bool.and_true, Bool.and_true]
    exact total _ List.mem_cons_self

/-- While all that is read for a measure fits a word, its sum comes to what is read. -/
theorem eval_sum (keyed : s.WellKeyed) (consistent : s.Consistent) (found : j ∈ s.joined actorTable p)
    (planned : ∀ k ∈ m.keys w, k ∈ p.snapshots) (fits : s.TallyFits actorTable w j.actor.id m) :
    (m.sum w).eval j = .whole (s.readTally actorTable w j.actor.id m) := by
  obtain ⟨totals, each, sums⟩ := fits
  have own : ∀ scope ∈ m.scopes, ∀ k ∈ m.keysIn w scope, k ∈ m.keys w :=
    fun scope listed k key => List.mem_flatMap.2 ⟨scope, listed, key⟩
  have value : ∀ scope ∈ m.scopes,
      (w.overSpan m.dimension m.span m.counter scope).exact j = s.readIn actorTable w j.actor.id m scope :=
    fun scope listed => keyed.exact_overSpan consistent found fun k key => planned k (own scope listed k key)
  have exact : (m.sum w).exact j = s.readTally actorTable w j.actor.id m := by
    rw [Measure.sum, Window.overScopes, Sum.exact_ofList, List.map_map]
    exact congrArg List.sum (List.map_congr_left value)
  rw [← exact]
  refine Sum.eval_eq_exact (Sum.fits_ofList (fun part listed => ?_) (fun some start => ?_))
  · obtain ⟨scope, mine, rfl⟩ := List.mem_map.1 listed
    exact keyed.fits_overSpan consistent found (fun k key => planned k (own scope mine k key))
      (fun k key => totals k (own scope mine k key)) (each scope mine)
  · obtain ⟨first, start', rfl⟩ := List.prefix_map_iff.1 start
    have same : first.map (Sum.exact j ∘ w.overSpan m.dimension m.span m.counter) =
        first.map (s.readIn actorTable w j.actor.id m) :=
      List.map_congr_left fun scope listed => value scope (start'.subset listed)
    rw [List.map_map, same]
    exact sums first ((List.mem_inits _ _).2 start')

end Store.WellKeyed

/-! ## Counter columns -/

/-- The quotient of two amounts that are whole numbers is theirs. -/
lemma Expression.eval_share {j : JoinedRow} {a b : Sum} {m n : Int} (numerator : a.eval j = .whole m)
    (denominator : b.eval j = .whole n) : (share a b).eval j = Cell.quotient m n := by
  rw [eval, numerator, denominator, Amount.share?, Cell.quotient]
  by_cases zero : n = 0
  · subst zero
    rfl
  · have notEqual : (Amount.compareInt (.whole n) 0 == .eq) = false := by
      rw [beq_eq_false_iff_ne, Amount.compareInt, Number.Numeral.compare, ne_eq, Int.compare_eq_eq]
      exact zero
    rw [if_neg zero, notEqual]
    rfl

/-- The sum of a measure reads the keys of the measure. -/
lemma Measure.mem_snapshots_sum {m : Measure} {w : Window} {k : SnapshotKey} :
    k ∈ (m.sum w).snapshots ↔ k ∈ m.keys w := by
  rw [sum, Window.mem_snapshots_overScopes, keys, List.mem_flatMap]
  refine exists_congr fun scope => and_congr_right fun _ => ?_
  cases span : m.span <;> cases start : w.start <;>
    simp [keysIn, Window.needSpan, Window.needBefore, Window.needFinish, span, start, or_comm]

namespace Column

variable {c : Column} {w : Window} {j : JoinedRow} {value : Measure → Int} {cell : Cell}

/-- A column with measures shows something for their values. -/
lemma exists_counted? (counts : c.measures ≠ []) (value : Measure → Int) : ∃ cell, c.counted? value = some cell := by
  unfold counted? measures at *
  split at counts
  case h_5 => exact absurd rfl counts
  all_goals exact ⟨_, rfl⟩

/-- What a counter column shows depends on nothing but the values of its measures. -/
lemma counted?_congr {value' : Measure → Int} (same : ∀ m ∈ c.measures, value m = value' m) :
    c.counted? value = c.counted? value' := by
  unfold counted?
  split
  · rename_i m only
    rw [same m (by simp [only])]
  · rename_i m whole both
    rw [same m (by simp [both]), same whole (by simp [both])]
  · rfl

/-- The expression of a column with one measure is its amount. -/
lemma expression?_of_measure {m : Measure} (only : c.measures = [m]) :
    c.expression? w = some (.amount (m.sum w)) := by
  unfold measures at only
  split at only <;> cases only
  rename_i type
  rw [expression?, type]
  rfl

/-- The expression of a column with two measures is their quotient. -/
lemma expression?_of_measures {m whole : Measure} (both : c.measures = [m, whole]) :
    c.expression? w = some (.share (m.sum w) (whole.sum w)) := by
  unfold measures at both
  split at both <;> cases both
  all_goals
    rename_i type
    rw [expression?, type]
    rfl

/-- What a counter column shows is the amount of its one measure or the quotient of its two. -/
lemma counted?_eq_some (counted : c.counted? value = some cell) :
    (∃ m, c.measures = [m] ∧ cell = .int (value m)) ∨
      ∃ m whole, c.measures = [m, whole] ∧ cell = .quotient (value m) (value whole) := by
  unfold counted? at counted
  split at counted
  · rename_i m only
    exact Or.inl ⟨m, only, (Option.some.inj counted).symm⟩
  · rename_i m whole both
    exact Or.inr ⟨m, whole, both, (Option.some.inj counted).symm⟩
  · cases counted

/-- A counter column has an expression, which reads the keys of its measures; where their sums come to some
values, it comes to what the column shows for these. -/
lemma exists_expression? (counted : c.counted? value = some cell) :
    ∃ e, c.expression? w = some e ∧ (∀ m ∈ c.measures, ∀ k ∈ m.keys w, k ∈ e.snapshots) ∧
      ((∀ m ∈ c.measures, (m.sum w).eval j = .whole (value m)) → e.eval j = cell) := by
  rcases counted?_eq_some counted with ⟨m, only, rfl⟩ | ⟨m, whole, both, rfl⟩
  · refine ⟨_, expression?_of_measure only, fun m' listed k key => ?_, fun values => ?_⟩
    · rw [only, List.mem_singleton] at listed
      subst listed
      exact Measure.mem_snapshots_sum.2 key
    · rw [Expression.eval, values m (by simp [only])]
      rfl
  · refine ⟨_, expression?_of_measures both, fun m' listed k key => ?_, fun values => ?_⟩
    · rw [both, List.mem_pair] at listed
      rcases listed with rfl | rfl
      · exact List.mem_append_left _ (Measure.mem_snapshots_sum.2 key)
      · exact List.mem_append_right _ (Measure.mem_snapshots_sum.2 key)
    · exact Expression.eval_share (values m (by simp [both])) (values whole (by simp [both]))

end Column

end ActivityReport
