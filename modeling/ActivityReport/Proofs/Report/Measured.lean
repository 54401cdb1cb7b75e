import ActivityReport.Proofs.Ladder.Measure
import ActivityReport.Proofs.Report.Levels
import ActivityReport.Store.Database

/-!
# Levels can be worked out

In a store whose numbers are words every total can be cut to a whole number, though the sum may be a double, and the
shares of the way to the next rung lie within the doubles. So every joined row gets its levels
(`Store.WellKeyed.exists_withLevels`), whatever the ladder.
-/

namespace ActivityReport

open Number (fitsWord)

/-! ## Totals -/

namespace Store

variable {s : Store}

/-- The numbers of a counter row of a store are numbers of the store. -/
lemma mem_integers {row : CounterRow} (listed : row ∈ s.counters) (counter : Counter) :
    row.daily counter ∈ s.integers ∧ row.toDate counter ∈ s.integers := by
  have own : ∀ n, n = row.daily counter ∨ n = row.toDate counter → n ∈ s.integers := by
    intro n same
    refine List.mem_append_right _ (List.mem_flatMap.2 ⟨row, listed, List.mem_append_right _ ?_⟩)
    refine List.mem_flatMap.2 ⟨counter, counter.mem_all, ?_⟩
    simpa using same
  exact ⟨own _ (Or.inl rfl), own _ (Or.inr rfl)⟩

/-- In a store whose numbers are words a total can be cut to a whole number. -/
lemma exists_toWhole_amount (fits : ∀ n ∈ s.integers, fitsWord n = true) (k : SnapshotKey) (counter : Counter)
    (actorId : Int) : ∃ n, (s.amount k counter actorId).toWhole = .ok n ∧ n.natAbs < 2 ^ 69 := by
  unfold amount
  cases latest : s.latestRow? k actorId with
  | none => exact ⟨0, rfl, by decide⟩
  | some row =>
    have own := mem_integers ((latestRow?_eq_some latest).1) counter
    exact Amount.exists_toWhole_add (fits _ own.2) (fits _ own.1)

variable {q : Query} {n : Naming} {j : JoinedRow} {l : LevelSnapshot} {ladder : Option Ladder}

/-- In such a store the level of a row at a planned snapshot can be worked out. -/
lemma WellKeyed.exists_levelAt (keyed : s.WellKeyed) (fits : ∀ n ∈ s.integers, fitsWord n = true)
    (found : j ∈ s.joined n.actorTable q.plan) (listed : l ∈ q.plan.levels) (planned : l.key ∈ q.plan.snapshots) :
    ∃ level, (RawRow.ofJoined q j).source.levelAt ladder l = .ok level := by
  have total : ∀ counter, ∃ n, (RawRow.ofJoined q j).source.total l counter = .ok n ∧ n.natAbs < 2 ^ 69 := by
    intro counter
    obtain ⟨n, whole, small⟩ := exists_toWhole_amount fits l.key counter j.actor.id
    refine ⟨n, ?_, small⟩
    rw [keyed.total_eq found listed planned, whole]
    rfl
  obtain ⟨edits, isEdits, small⟩ := total .edits
  obtain ⟨logEvents, isLogEvents, small'⟩ := total .logEvents
  obtain ⟨activeDays, isActiveDays, small''⟩ := total .activeDays
  have measured : (ladder.getD []).measure (edits + logEvents) activeDays = _ :=
    Ladder.measure_eq_ok_level (ladder.getD []) (Number.abs_lt_limit (k := 127) (by decide) (by omega))
      (Number.abs_lt_limit (k := 127) (by decide) (by omega))
  refine ⟨(ladder.getD []).level (edits + logEvents) activeDays, ?_⟩
  rw [SourceRow.levelAt, isEdits, isLogEvents, isActiveDays]
  exact measured

/-- In a store whose numbers are words every joined row gets its levels. -/
theorem WellKeyed.exists_withLevels (keyed : s.WellKeyed) (fits : ∀ n ∈ s.integers, fitsWord n = true)
    (found : j ∈ s.joined n.actorTable q.plan) (planned : ∀ l ∈ q.plan.levels, l.key ∈ q.plan.snapshots) :
    ∃ row, (RawRow.ofJoined q j).source.withLevels ladder q.plan.levels = .ok row := by
  have all : ∃ levels, q.plan.levels.mapM (fun l => (l, ·) <$> (RawRow.ofJoined q j).source.levelAt ladder l) =
      .ok levels := by
    refine exists_mapM_eq_ok fun l listed => ?_
    obtain ⟨level, measured⟩ := keyed.exists_levelAt fits found listed (planned l listed)
    exact ⟨(l, level), congrArg _ measured⟩
  obtain ⟨levels, all⟩ := all
  exact ⟨_, bind_eq_ok.2 ⟨levels, all, rfl⟩⟩

end Store

end ActivityReport
