import ActivityReport.Store.Lookup
import Mathlib.Data.List.MinMax
import Mathlib.Data.List.Nodup

/-!
# The latest row

What a snapshot key stands for: among the rows of its subject and scope on its side of its day, the one
of the greatest day (`Store.latestRow?`). In a store without double keys a look-up finds this row and no
other, with one exception. A key whose copy of the table hides the table of actors takes the day from
the rows of all actors; it then loses its row where another actor has a later one (`Store.loses`).
-/

namespace ActivityReport

/-! ## First and last days -/

/-- A fold that keeps the better of two days ends with one that no day is better than. -/
lemma foldl_better {r : Date → Date → Prop} [DecidableRel r] (asymm : ∀ a b, r a b → ¬ r b a)
    (trans : ∀ a b c, ¬ r a b → ¬ r b c → ¬ r a c) (rest : List Date) (d : Date) :
    rest.foldl (fun a b => if r b a then b else a) d ∈ d :: rest ∧
      ∀ x ∈ d :: rest, ¬ r x (rest.foldl (fun a b => if r b a then b else a) d) := by
  induction rest generalizing d with
  | nil => exact ⟨by simp, by simpa using fun h => asymm d d h h⟩
  | cons b rest ih =>
    obtain ⟨found, best⟩ := ih (if r b d then b else d)
    simp only [List.foldl_cons, List.mem_cons, forall_eq_or_imp] at found best ⊢
    by_cases h : r b d
    · rw [if_pos h] at found best ⊢
      exact ⟨Or.inr found, trans _ b _ (asymm b d h) best.1, best⟩
    · rw [if_neg h] at found best ⊢
      exact ⟨by tauto, best.1, trans _ d _ h best.1, best.2⟩

/-- The earliest and the latest of some days are among them and bound them all. -/
lemma dayRange?_eq_some {days : List Date} {first last : Date} (h : dayRange? days = some (first, last)) :
    (first ∈ days ∧ ∀ d ∈ days, first ≤ d) ∧ last ∈ days ∧ ∀ d ∈ days, d ≤ last := by
  cases days with
  | nil => cases h
  | cons d rest =>
    cases h
    have low := foldl_better (r := fun b a => b < a) (by simp only [Date.lt_def]; omega)
      (by simp only [Date.lt_def]; omega) rest d
    have high := foldl_better (r := fun b a => a < b) (by simp only [Date.lt_def]; omega)
      (by simp only [Date.lt_def]; omega) rest d
    exact ⟨⟨low.1, fun x hx => Nat.not_lt.1 (low.2 x hx)⟩, high.1, fun x hx => Nat.not_lt.1 (high.2 x hx)⟩

/-- Only of no days there is no first and last one. -/
lemma dayRange?_eq_none_iff {days : List Date} : dayRange? days = none ↔ days = [] := by
  cases days <;> simp [dayRange?]

/-- The latest of some days is among them and bounds them all. -/
lemma latestDay?_eq_some {days : List Date} {day : Date} (h : latestDay? days = some day) :
    day ∈ days ∧ ∀ d ∈ days, d ≤ day := by
  obtain ⟨⟨first, last⟩, range, rfl⟩ := Option.map_eq_some_iff.1 h
  exact (dayRange?_eq_some range).2

/-- Only of no days there is no latest one. -/
lemma latestDay?_eq_none_iff {days : List Date} : latestDay? days = none ↔ days = [] := by
  rw [latestDay?, Option.map_eq_none_iff, dayRange?_eq_none_iff]

/-! ## Rows that a key sees -/

/-- Whether a key looks at a row on behalf of an actor: it has the subject and the scope of the key and
lies on its side of its day. -/
def SnapshotKey.sees (k : SnapshotKey) (actorId : Int) (row : CounterRow) : Bool :=
  row.subject == Store.subjectFor k.dimension actorId && row.scope == k.scope &&
    k.boundary.admits k.date row.date

/-- Whether a key looks at a row on behalf of some actor. -/
def SnapshotKey.seesForAny (k : SnapshotKey) (row : CounterRow) : Bool :=
  row.subject.isSome && row.scope == k.scope && k.boundary.admits k.date row.date

namespace Store

/-- The row that a key stands for on behalf of an actor: of those it sees, the one of the greatest day. -/
def latestRow? (s : Store) (k : SnapshotKey) (actorId : Int) : Option CounterRow :=
  (s.counters.filter (k.sees actorId)).argmax fun row => row.date.ordinal

/-- Whether the row of a key is lost for an actor: the day is looked up among the rows of all actors,
and there is a later one than the actor's latest. -/
def loses (s : Store) (actorTable : String) (k : SnapshotKey) (actorId : Int) : Bool :=
  k.hidesActors actorTable && (s.latestRow? k actorId).any fun row =>
    s.counters.any fun other => k.seesForAny other && decide (row.date < other.date)

/-- The row that is found under a key on behalf of an actor. -/
def snapshotRow? (s : Store) (actorTable : String) (k : SnapshotKey) (actorId : Int) : Option CounterRow :=
  if s.loses actorTable k actorId then none else s.latestRow? k actorId

variable {s : Store} {actorTable : String} {k : SnapshotKey} {actorId : Int} {row : CounterRow}

/-- The latest row is a row that the key sees, and none that it sees is later. -/
lemma latestRow?_eq_some (h : s.latestRow? k actorId = some row) :
    row ∈ s.counters ∧ k.sees actorId row = true ∧
      ∀ other ∈ s.counters, k.sees actorId other = true → other.date ≤ row.date := by
  have found := List.argmax_mem h
  rw [List.mem_filter] at found
  refine ⟨found.1, found.2, fun other listed seen => ?_⟩
  exact List.le_of_mem_argmax (List.mem_filter.2 ⟨listed, seen⟩) h

/-- There is no latest row exactly when the key sees no row. -/
lemma latestRow?_eq_none_iff :
    s.latestRow? k actorId = none ↔ ∀ row ∈ s.counters, k.sees actorId row = false := by
  simp [latestRow?, List.argmax_eq_none, List.filter_eq_nil_iff]

/-- There is a latest row exactly when the key sees a row. -/
lemma latestRow?_isSome_iff :
    (s.latestRow? k actorId).isSome = true ↔ ∃ row ∈ s.counters, k.sees actorId row = true := by
  rw [← Option.ne_none_iff_isSome, ne_eq, latestRow?_eq_none_iff]
  simp

/-- The latest row up to a day is the latest row before the next day. -/
lemma latestRow?_before_next {cut next : Date} (follows : cut.addDays? 1 = some next) (d : Dimension) (scope : Scope) :
    s.latestRow? ⟨d, .before, next, scope⟩ actorId = s.latestRow? ⟨d, .finish, cut, scope⟩ actorId := by
  have sees : ∀ row : CounterRow, (⟨d, .before, next, scope⟩ : SnapshotKey).sees actorId row =
      (⟨d, .finish, cut, scope⟩ : SnapshotKey).sees actorId row := by
    intro row
    have day : row.date < next ↔ row.date ≤ cut := by
      rw [Date.addDays?_eq_some_iff] at follows
      rw [Date.lt_def, Date.le_def]
      omega
    simp only [SnapshotKey.sees, Boundary.admits, day]
  rw [latestRow?, latestRow?, List.filter_congr fun row _ => sees row]

namespace WellKeyed

/-- Rows that agree in subject, scope and day are one row. -/
lemma row_unique (keyed : s.WellKeyed) {a b : CounterRow} (ha : a ∈ s.counters) (hb : b ∈ s.counters)
    (subject : a.subject = b.subject) (scope : a.scope = b.scope) (date : a.date = b.date) : a = b := by
  apply List.inj_on_of_nodup_map keyed.counters ha hb
  rw [subject, scope, date]

/-- The rows of a subject and scope on the day of one of them are that row alone. -/
lemma rowsOf_day (keyed : s.WellKeyed) (listed : row ∈ s.counters) :
    (s.rowsOf row.subject row.scope).filter (·.date == row.date) = [row] := by
  have nodup : ((s.rowsOf row.subject row.scope).filter (·.date == row.date)).Nodup :=
    ((keyed.counters.of_map _).filter _).filter _
  -- by the key of the table it is the only one
  have all : ∀ b ∈ (s.rowsOf row.subject row.scope).filter (·.date == row.date), b = row := by
    intro b hb
    simp only [rowsOf, List.mem_filter, Bool.and_eq_true, beq_iff_eq] at hb
    exact keyed.row_unique hb.1.1 listed hb.1.2.1 hb.1.2.2 hb.2
  have found : row ∈ (s.rowsOf row.subject row.scope).filter (·.date == row.date) := by
    simp [rowsOf, listed]
  generalize (s.rowsOf row.subject row.scope).filter (·.date == row.date) = rows at *
  match rows with
  | [] => cases found
  | [a] => rw [all a (by simp)]
  | a :: b :: rest =>
    rw [all a (by simp), all b (by simp)] at nodup
    simp at nodup

end WellKeyed

/-! ## The look-up -/

/-- The day of a look-up is one of the rows that it admits, and bounds them. -/
lemma asOfDay?_eq_some {rows : List CounterRow} {day : Date} (h : asOfDay? k rows = some day) :
    (∃ row ∈ rows, row.date = day ∧ k.boundary.admits k.date row.date = true) ∧
      ∀ row ∈ rows, k.boundary.admits k.date row.date = true → row.date ≤ day := by
  obtain ⟨found, greatest⟩ := latestDay?_eq_some h
  simp only [List.mem_filter, List.mem_map] at found greatest
  obtain ⟨⟨row, listed, rfl⟩, admitted⟩ := found
  exact ⟨⟨row, listed, rfl, admitted⟩, fun other ho ha => greatest _ ⟨⟨other, ho, rfl⟩, ha⟩⟩

/-- There is no day of a look-up exactly when it admits no row. -/
lemma asOfDay?_eq_none_iff {rows : List CounterRow} :
    asOfDay? k rows = none ↔ ∀ row ∈ rows, k.boundary.admits k.date row.date = false := by
  simp [asOfDay?, latestDay?_eq_none_iff, List.filter_eq_nil_iff]

/-- A row of a key's subject and scope is seen when it lies on its side. -/
lemma mem_rowsOf_sees :
    (row ∈ s.rowsOf (subjectFor k.dimension actorId) k.scope ∧ k.boundary.admits k.date row.date = true) ↔
      row ∈ s.counters ∧ k.sees actorId row = true := by
  simp only [rowsOf, List.mem_filter, SnapshotKey.sees, Bool.and_eq_true, and_assoc]

/-- A row of some actor in a key's scope is seen for some actor when it lies on its side. -/
lemma mem_rowsOfActors_sees :
    (row ∈ s.rowsOfActors k.scope ∧ k.boundary.admits k.date row.date = true) ↔
      row ∈ s.counters ∧ k.seesForAny row = true := by
  simp only [rowsOfActors, List.mem_filter, SnapshotKey.seesForAny, Bool.and_eq_true, and_assoc]

/-- What a key of actors sees for one of them it sees for some actor. -/
lemma seesForAny_of_sees (actor : k.dimension = .actor) (seen : k.sees actorId row = true) :
    k.seesForAny row = true := by
  simp only [SnapshotKey.sees, SnapshotKey.seesForAny, actor, subjectFor, Bool.and_eq_true, beq_iff_eq] at seen ⊢
  exact ⟨⟨by rw [seen.1.1]; rfl, seen.1.2⟩, seen.2⟩

/-- Only keys of actors hide the table of actors. -/
lemma dimension_of_hidesActors (h : k.hidesActors actorTable = true) : k.dimension = .actor := by
  simp only [SnapshotKey.hidesActors, Bool.and_eq_true, beq_iff_eq] at h
  exact h.1

/-- A look-up is over the rows of the subject on the day that is looked up. -/
lemma snapshotRows_eq_elim :
    s.snapshotRows actorTable k actorId =
      (asOfDay? k (if k.hidesActors actorTable then s.rowsOfActors k.scope
        else s.rowsOf (subjectFor k.dimension actorId) k.scope)).elim []
        fun day => (s.rowsOf (subjectFor k.dimension actorId) k.scope).filter (·.date == day) := by
  unfold snapshotRows
  simp only
  split <;> rename_i found <;> rw [found] <;> rfl

namespace WellKeyed

/-- On a day of a key's side up to which the latest row reaches, there is that row or none. -/
lemma rowsOf_on_day (keyed : s.WellKeyed) {day : Date} (admitted : k.boundary.admits k.date day = true)
    (bound : ∀ row, s.latestRow? k actorId = some row → row.date ≤ day) :
    (s.rowsOf (subjectFor k.dimension actorId) k.scope).filter (·.date == day) =
      ((s.latestRow? k actorId).filter (·.date == day)).toList := by
  cases latest : s.latestRow? k actorId with
  | none =>
    simp only [Option.filter_none, Option.toList_none, List.filter_eq_nil_iff, beq_iff_eq]
    rintro row own rfl
    obtain ⟨listed, seen⟩ := mem_rowsOf_sees.1 ⟨own, admitted⟩
    rw [latestRow?_eq_none_iff.1 latest row listed] at seen
    cases seen
  | some row =>
    obtain ⟨listed, seen, last⟩ := latestRow?_eq_some latest
    by_cases same : row.date = day
    · subst same
      simp only [SnapshotKey.sees, Bool.and_eq_true, beq_iff_eq] at seen
      rw [← seen.1.1, ← seen.1.2, keyed.rowsOf_day listed, Option.filter_some_pos (by simp)]
      rfl
    · rw [Option.filter_some_neg (by simpa using same), Option.toList_none, List.filter_eq_nil_iff]
      intro other own onDay
      obtain rfl := eq_of_beq onDay
      obtain ⟨listed', seen'⟩ := mem_rowsOf_sees.1 ⟨own, admitted⟩
      exact same (Date.le_antisymm (bound row latest) (last other listed' seen'))

/-- Where the day is looked up among the subject's own rows, the look-up finds the latest row. -/
lemma rows_on_own_day (keyed : s.WellKeyed) :
    ((asOfDay? k (s.rowsOf (subjectFor k.dimension actorId) k.scope)).elim []
      fun day => (s.rowsOf (subjectFor k.dimension actorId) k.scope).filter (·.date == day)) =
      (s.latestRow? k actorId).toList := by
  cases found : asOfDay? k (s.rowsOf (subjectFor k.dimension actorId) k.scope) with
  | none =>
    rw [asOfDay?_eq_none_iff] at found
    have unseen : s.latestRow? k actorId = none := by
      rw [latestRow?_eq_none_iff]
      intro row listed
      rw [← Bool.not_eq_true]
      intro seen
      obtain ⟨own, admitted⟩ := mem_rowsOf_sees.2 ⟨listed, seen⟩
      rw [found row own] at admitted
      cases admitted
    rw [unseen]
    rfl
  | some day =>
    obtain ⟨⟨row, own, rfl, admitted⟩, greatest⟩ := asOfDay?_eq_some found
    obtain ⟨listed, seen⟩ := mem_rowsOf_sees.1 ⟨own, admitted⟩
    obtain ⟨latest, eq⟩ := Option.isSome_iff_exists.1 (latestRow?_isSome_iff.2 ⟨row, listed, seen⟩)
    obtain ⟨listed', seen', last⟩ := latestRow?_eq_some eq
    obtain ⟨own', admitted'⟩ := mem_rowsOf_sees.2 ⟨listed', seen'⟩
    -- the row that the look-up found is the latest one, whose day the look-up has found
    have day : latest.date = row.date :=
      Date.le_antisymm (greatest latest own' admitted') (last row listed seen)
    rw [Option.elim_some, keyed.rowsOf_on_day admitted, eq, Option.filter_some_pos (by simp [day])]
    intro other isLatest
    rw [eq] at isLatest
    cases isLatest
    exact Date.le_def.2 (Nat.le_of_eq (congrArg Date.ordinal day))

/-- Where the day is looked up among the rows of all actors, the look-up finds the latest row unless
another actor has a later one. -/
lemma rows_on_common_day (keyed : s.WellKeyed) (actor : k.dimension = .actor) :
    ((asOfDay? k (s.rowsOfActors k.scope)).elim []
      fun day => (s.rowsOf (subjectFor k.dimension actorId) k.scope).filter (·.date == day)) =
      ((s.latestRow? k actorId).filter fun row =>
        !s.counters.any fun other => k.seesForAny other && decide (row.date < other.date)).toList := by
  have common : ∀ row, s.latestRow? k actorId = some row →
      row ∈ s.rowsOfActors k.scope ∧ k.boundary.admits k.date row.date = true := by
    intro row latest
    obtain ⟨listed, seen, -⟩ := latestRow?_eq_some latest
    exact mem_rowsOfActors_sees.2 ⟨listed, seesForAny_of_sees actor seen⟩
  cases found : asOfDay? k (s.rowsOfActors k.scope) with
  | none =>
    rw [asOfDay?_eq_none_iff] at found
    cases latest : s.latestRow? k actorId with
    | none => rfl
    | some row =>
      obtain ⟨listed, admitted⟩ := common row latest
      rw [found row listed] at admitted
      cases admitted
  | some day =>
    obtain ⟨⟨newest, listed, rfl, admitted⟩, greatest⟩ := asOfDay?_eq_some found
    have bound : ∀ row, s.latestRow? k actorId = some row → row.date ≤ newest.date :=
      fun row latest => greatest row (common row latest).1 (common row latest).2
    -- the day that is looked up is the actor's own exactly when nobody has a later row
    have newestOfAll : ∀ row, s.latestRow? k actorId = some row →
        (row.date == newest.date) =
          !s.counters.any fun other => k.seesForAny other && decide (row.date < other.date) := by
      intro row latest
      rw [Bool.eq_iff_iff]
      simp only [beq_iff_eq, Bool.not_eq_true', List.any_eq_false, Bool.and_eq_true, decide_eq_true_eq,
        not_and]
      constructor
      · intro same other listed' seen' later
        obtain ⟨common', admitted'⟩ := mem_rowsOfActors_sees.2 ⟨listed', seen'⟩
        rw [same] at later
        exact Nat.not_lt.2 (greatest other common' admitted') later
      · intro unbeaten
        obtain ⟨listed', seen'⟩ := mem_rowsOfActors_sees.1 ⟨listed, admitted⟩
        exact Date.le_antisymm (bound row latest) (Nat.not_lt.1 (unbeaten newest listed' seen'))
    rw [Option.elim_some, keyed.rowsOf_on_day admitted bound]
    cases latest : s.latestRow? k actorId with
    | none => rfl
    | some row => rw [Option.filter, Option.filter, newestOfAll row latest]

/-- A look-up finds at most one row: the latest one, unless it is lost. -/
theorem snapshotRows_eq (keyed : s.WellKeyed) :
    s.snapshotRows actorTable k actorId = (s.snapshotRow? actorTable k actorId).toList := by
  rw [snapshotRows_eq_elim]
  unfold snapshotRow? loses
  cases hides : k.hidesActors actorTable with
  | false => simpa using keyed.rows_on_own_day
  | true =>
    rw [if_pos rfl, keyed.rows_on_common_day (dimension_of_hidesActors hides)]
    cases s.latestRow? k actorId with
    | none => rfl
    | some row =>
      rw [Option.filter, Option.any_some, Bool.true_and]
      generalize (s.counters.any fun other => k.seesForAny other && decide (row.date < other.date)) = later
      cases later <;> rfl

end WellKeyed

end Store

end ActivityReport
