import ActivityReport.Proofs.Store.Groups
import ActivityReport.Proofs.Store.Latest

/-!
# Stores that agree up to a day

Two stores agree up to a day when they hold the same actors, groups and templates, and the same counters
up to that day; in which order they are held does not matter. A key looks at no row after its day. So the
two stores answer every key up to that day alike (`Store.AgreesUpTo.snapshotRow?_eq`,
`Store.AgreesUpTo.range?_eq`), and they answer alike for groups and templates on any day.
-/

namespace ActivityReport

/-- Whether two stores hold the same actors, groups and templates, and the same counters up to a day. -/
structure Store.AgreesUpTo (s t : Store) (day : Date) : Prop where
  actors : ∀ a, a ∈ s.actors ↔ a ∈ t.actors
  groups : ∀ g, g ∈ s.groups ↔ g ∈ t.groups
  templates : ∀ u, u ∈ s.templates ↔ u ∈ t.templates
  counters : ∀ row : CounterRow, row.date ≤ day → (row ∈ s.counters ↔ row ∈ t.counters)

/-! ## Rows up to a day -/

/-- A side of a day admits no row after the day. -/
lemma Boundary.le_of_admits {b : Boundary} {target row : Date} (h : b.admits target row = true) : row ≤ target := by
  cases b with
  | finish => exact of_decide_eq_true h
  | before => exact Nat.le_of_lt (of_decide_eq_true h : row < target)

/-- A key sees no row after its day. -/
lemma SnapshotKey.date_le_of_sees {k : SnapshotKey} {actorId : Int} {row : CounterRow}
    (h : k.sees actorId row = true) : row.date ≤ k.date :=
  Boundary.le_of_admits (Bool.and_eq_true_iff.1 h).2

/-- A key sees no row after its day for anybody. -/
lemma SnapshotKey.date_le_of_seesForAny {k : SnapshotKey} {row : CounterRow} (h : k.seesForAny row = true) :
    row.date ≤ k.date :=
  Boundary.le_of_admits (Bool.and_eq_true_iff.1 h).2

/-- The first and the last of some days do not depend on their order. -/
lemma dayRange?_congr {days days' : List Date} (same : ∀ d, d ∈ days ↔ d ∈ days') :
    dayRange? days = dayRange? days' := by
  cases range : dayRange? days with
  | none =>
    rw [dayRange?_eq_none_iff] at range
    subst range
    symm
    rw [dayRange?_eq_none_iff, List.eq_nil_iff_forall_not_mem]
    exact fun d listed => absurd ((same d).2 listed) List.not_mem_nil
  | some ends =>
    obtain ⟨⟨firstIn, low⟩, lastIn, high⟩ := dayRange?_eq_some (show _ = some (ends.1, ends.2) from range)
    cases range' : dayRange? days' with
    | none =>
      rw [dayRange?_eq_none_iff] at range'
      subst range'
      exact absurd ((same ends.1).1 firstIn) List.not_mem_nil
    | some ends' =>
      obtain ⟨⟨firstIn', low'⟩, lastIn', high'⟩ := dayRange?_eq_some (show _ = some (ends'.1, ends'.2) from range')
      refine congrArg some (Prod.ext ?_ ?_)
      · exact Date.le_antisymm (low _ ((same _).2 firstIn')) (low' _ ((same _).1 firstIn))
      · exact Date.le_antisymm (high' _ ((same _).1 lastIn)) (high _ ((same _).2 lastIn'))

namespace Store

variable {s t : Store} {day : Date} {k : SnapshotKey} {actorId : Int}

/-- The latest row of a key is the row that the key sees and that no other one it sees is later than. -/
lemma WellKeyed.latestRow?_eq_some_iff (keyed : s.WellKeyed) {row : CounterRow} :
    s.latestRow? k actorId = some row ↔ row ∈ s.counters ∧ k.sees actorId row = true ∧
      ∀ other ∈ s.counters, k.sees actorId other = true → other.date ≤ row.date := by
  refine ⟨latestRow?_eq_some, fun ⟨listed, seen, last⟩ => ?_⟩
  obtain ⟨latest, eq⟩ := Option.isSome_iff_exists.1 (latestRow?_isSome_iff.2 ⟨row, listed, seen⟩)
  obtain ⟨listed', seen', last'⟩ := latestRow?_eq_some eq
  rw [eq]
  simp only [SnapshotKey.sees, Bool.and_eq_true, beq_iff_eq] at seen seen'
  refine congrArg some (keyed.row_unique listed' listed (seen'.1.1.trans seen.1.1.symm)
    (seen'.1.2.trans seen.1.2.symm) ?_)
  refine Date.le_antisymm (last latest listed' ?_) (last' row listed ?_)
  · simpa [SnapshotKey.sees] using seen'
  · simpa [SnapshotKey.sees] using seen

namespace AgreesUpTo

/-- Agreement has no direction. -/
lemma symm (h : s.AgreesUpTo t day) : t.AgreesUpTo s day :=
  ⟨fun a => (h.actors a).symm, fun g => (h.groups g).symm, fun u => (h.templates u).symm,
    fun row early => (h.counters row early).symm⟩

/-- A key up to the day sees the same rows in both stores. -/
lemma mem_of_sees (h : s.AgreesUpTo t day) (early : k.date ≤ day) {row : CounterRow}
    (seen : k.sees actorId row = true) : row ∈ s.counters ↔ row ∈ t.counters :=
  h.counters row (Date.le_trans (SnapshotKey.date_le_of_sees seen) early)

/-- A key up to the day has the same latest row in both stores. -/
lemma latestRow?_eq (h : s.AgreesUpTo t day) (keyed : s.WellKeyed) (keyed' : t.WellKeyed) (early : k.date ≤ day) :
    s.latestRow? k actorId = t.latestRow? k actorId := by
  refine Option.ext fun row => ?_
  rw [keyed.latestRow?_eq_some_iff, keyed'.latestRow?_eq_some_iff]
  constructor
  · rintro ⟨listed, seen, last⟩
    exact ⟨(h.mem_of_sees early seen).1 listed, seen, fun other listed' seen' =>
      last other ((h.mem_of_sees early seen').2 listed') seen'⟩
  · rintro ⟨listed, seen, last⟩
    exact ⟨(h.mem_of_sees early seen).2 listed, seen, fun other listed' seen' =>
      last other ((h.mem_of_sees early seen').1 listed') seen'⟩

/-- A key up to the day finds the same row in both stores, also where a row can be lost. -/
lemma snapshotRow?_eq (h : s.AgreesUpTo t day) (keyed : s.WellKeyed) (keyed' : t.WellKeyed) (early : k.date ≤ day)
    (actorTable : String) : s.snapshotRow? actorTable k actorId = t.snapshotRow? actorTable k actorId := by
  have later : ∀ row : CounterRow,
      (s.counters.any fun other => k.seesForAny other && decide (row.date < other.date)) =
        t.counters.any fun other => k.seesForAny other && decide (row.date < other.date) := by
    intro row
    rw [Bool.eq_iff_iff, List.any_eq_true, List.any_eq_true]
    refine exists_congr fun other => and_congr_left fun seen => ?_
    exact h.counters other
      (Date.le_trans (SnapshotKey.date_le_of_seesForAny (Bool.and_eq_true_iff.1 seen).1) early)
  rw [snapshotRow?, snapshotRow?, loses, loses, h.latestRow?_eq keyed keyed' early]
  simp only [later]

/-- A range up to the day is the same in both stores. -/
lemma range?_eq (h : s.AgreesUpTo t day) {key : RangeKey} (early : key.date ≤ day) :
    s.range? key actorId = t.range? key actorId := by
  refine dayRange?_congr fun d => ?_
  simp only [activeDays, rowsOf, List.mem_map, List.mem_filter, Bool.and_eq_true, decide_eq_true_eq]
  refine exists_congr fun row => and_congr_left fun _ => and_congr_left fun active => and_congr_left fun _ => ?_
  exact h.counters row (Date.le_trans active.2 early)

/-- An actor has the same groups in both stores. -/
lemma isInGroups_eq (h : s.AgreesUpTo t day) (names : List String) :
    s.isInGroups actorId names = t.isInGroups actorId names := by
  rw [Bool.eq_iff_iff, isInGroups, isInGroups, List.any_eq_true, List.any_eq_true]
  exact exists_congr fun g => and_congr_left fun _ => h.groups g

/-- An actor has the same templates in both stores. -/
lemma hasTemplate_eq (h : s.AgreesUpTo t day) (name : String) :
    s.hasTemplate actorId name = t.hasTemplate actorId name := by
  rw [Bool.eq_iff_iff, hasTemplate, hasTemplate, List.contains_iff_mem, List.contains_iff_mem]
  exact h.templates _

end AgreesUpTo

/-! ## Groups -/

/-- Groups are fetched alike when there are the same memberships. -/
lemma AgreesUpTo.fetchGroups_eq (h : s.AgreesUpTo t day) (keyed : s.WellKeyed) (keyed' : t.WellKeyed) (chunk : Nat)
    (ids : List Int) : s.fetchGroups chunk ids = t.fetchGroups chunk ids := by
  rw [fetchGroups, fetchGroups, show s.membershipsOf = t.membershipsOf from
    funext (membershipsOf_congr keyed.groups keyed'.groups h.groups)]

end Store

end ActivityReport
