import ActivityReport.Proofs.Ladder.Held
import ActivityReport.Proofs.Query.Matching
import ActivityReport.Proofs.Trace.Success
import ActivityReport.Report.Basic

/-!
# Levels of rows

Which rows are kept for their levels. The rows that come out of `Layout.levelled` are those that meet all
conditions on levels (`Layout.rows_of_levelled`), and the level of a row at a snapshot that was planned is
the one that the ladder gives the actor for the totals in the store (`Store.levelId?`).
-/

namespace ActivityReport

open Traced (ComesTo Yields comesTo_pure comesTo_result)

/-! ## Ladders -/

namespace Ladder

/-- Nobody has a level without contributions and active days. -/
lemma pos_of_id?_level {ladder : Ladder} {contributions activeDays : Int} {id : String}
    (h : (ladder.level contributions activeDays).id? = some id) : 0 < contributions ∧ 0 < activeDays := by
  obtain ⟨rung, held, -⟩ := Option.map_eq_some_iff.1 h
  obtain ⟨i, found, -⟩ := Option.bind_eq_some_iff.1 held
  obtain ⟨rung, -, exceeded⟩ := getElem?_heldIndex? found
  rw [Rung.isExceeded_iff] at exceeded
  omega

/-- A level that can be measured is the level. -/
lemma measure_eq_ok {ladder : Ladder} {contributions activeDays : Int} {level : Level}
    (h : ladder.measure contributions activeDays = .ok level) : level = ladder.level contributions activeDays := by
  unfold measure at h
  split at h
  · exact (Except.ok.inj h).symm
  · cases h

end Ladder

/-! ## Rows with levels -/

namespace SourceRow

variable {raw : SourceRow} {ladder : Option Ladder} {levels : List LevelSnapshot} {row : LevelledRow}

/-- A row gets its levels and stays the row it is. -/
lemma raw_of_withLevels (h : raw.withLevels ladder levels = .ok row) : row.raw = raw := by
  obtain ⟨list, -, made⟩ := bind_eq_ok.1 h
  rw [← Except.ok.inj made]

/-- At each snapshot that is listed a row has the level that its totals give. -/
lemma levelAt_of_withLevels (h : raw.withLevels ladder levels = .ok row) {l : LevelSnapshot} (listed : l ∈ levels) :
    ∃ level, raw.levelAt ladder l = .ok level ∧ row.levelAt (some l) = level := by
  obtain ⟨list, each, made⟩ := bind_eq_ok.1 h
  rw [← Except.ok.inj made]
  replace each := mapM_eq_ok.1 each
  simp only [LevelledRow.levelAt]
  clear h made
  induction each with
  | nil => cases listed
  | @cons s found rest others first _ ih =>
    obtain ⟨level, measured, rfl⟩ := map_eq_ok.1 first
    rw [List.find?_cons]
    by_cases same : s = l
    · subst same
      exact ⟨level, measured, by simp⟩
    · rw [show (s == l) = false from beq_false_of_ne same]
      exact ih ((List.mem_cons.1 listed).resolve_left (Ne.symm same))

end SourceRow

namespace Layout

variable {l : Layout} {r : Request} {raw : List SourceRow} {rows : List LevelledRow}

/-- Without conditions on levels every row is kept. -/
lemma keepsLevels_of_not_requiresLevels (h : r.requiresLevels = false) (row : LevelledRow) :
    r.keepsLevels row = true := by
  rw [Request.keepsLevels, List.all_eq_true]
  intro c listed
  have notLevel := List.any_eq_false.1 h c listed
  cases c with
  | level changed ids => exact absurd rfl notLevel
  | _ => rfl

/-- The rows that come out are those with levels that meet all conditions on levels. -/
lemma rows_of_levelled (h : (l.levelled r raw).ComesTo rows) :
    ∃ all, l.withLevels raw = .ok all ∧ rows = all.filter r.keepsLevels := by
  obtain ⟨all, levelled, kept⟩ := (ComesTo.of_ite_bind h).bind
  refine ⟨all, mapError_eq_ok.1 (comesTo_result.1 levelled), ?_⟩
  split at kept
  · obtain ⟨_, -, kept⟩ := kept.bind
    exact (comesTo_pure.1 kept).symm
  · rename_i notRequired
    rw [← comesTo_pure.1 kept, List.filter_eq_self.2]
    exact fun row _ => keepsLevels_of_not_requiresLevels (Bool.eq_false_iff.2 notRequired) row

/-- Rows that get their levels are kept or dropped for them without a failure. -/
lemma levelled_yields (h : l.withLevels raw = .ok rows) : (l.levelled r raw).Yields (rows.filter r.keepsLevels) := by
  have levels : (Traced.result ((l.withLevels raw).mapError Failure.level)).Yields rows :=
    .result (mapError_eq_ok.2 h)
  refine Yields.ite_logAll_bind (levels.bind ?_)
  split
  · exact (Yields.logAll _).bind (.pure _)
  · rename_i notRequired
    rw [List.filter_eq_self.2 fun row _ => keepsLevels_of_not_requiresLevels (Bool.eq_false_iff.2 notRequired) row]
    exact .pure _

end Layout

/-! ## Levels from the store -/

namespace Amount

/-- The whole number that levels are measured with; where none can be had it is 0. -/
def cut (a : Amount) : Int :=
  match a.toWhole with
  | .ok n => n
  | .error _ => 0

end Amount

namespace Store

variable {s : Store}

/-- The level that a ladder gives an actor at a snapshot: by edits and log events together, and by active
days. -/
def level (s : Store) (ladder : Option Ladder) (l : LevelSnapshot) (actorId : Int) : Level :=
  (ladder.getD []).level
    ((s.amount l.key .edits actorId).cut + (s.amount l.key .logEvents actorId).cut)
    (s.amount l.key .activeDays actorId).cut

/-- The identifier of the level that a ladder gives an actor at a snapshot: by edits and log events
together, and by active days. -/
def levelId? (s : Store) (ladder : Option Ladder) (l : LevelSnapshot) (actorId : Int) : Option String :=
  ((ladder.getD []).level
    ((s.amount l.key .edits actorId).cut + (s.amount l.key .logEvents actorId).cut)
    (s.amount l.key .activeDays actorId).cut).id?

/-- An actor with a level at the end of some day has a row up to that day. -/
lemma hasRowBy_of_levelId? {ladder : Option Ladder} {day : Date} {actorId : Int} {id : String}
    (h : s.levelId? ladder ⟨.finish, day⟩ actorId = some id) : s.HasRowBy actorId day := by
  rw [← isSome_latestRow?_finish, ← Option.ne_none_iff_isSome]
  intro none
  have zero : ∀ counter, s.amount (LevelSnapshot.key ⟨.finish, day⟩) counter actorId = .whole 0 :=
    fun counter => amount_eq_zero none
  rw [levelId?, zero, zero, zero] at h
  exact absurd (Ladder.pos_of_id?_level h).1 (by decide)

variable {q : Query} {n : Naming} {j : JoinedRow} {l : LevelSnapshot}

/-- The total that decides a level is the store's. -/
lemma WellKeyed.total_eq (keyed : s.WellKeyed) (found : j ∈ s.joined n.actorTable q.plan)
    (listed : l ∈ q.plan.levels) (planned : l.key ∈ q.plan.snapshots) (counter : Counter) :
    (RawRow.ofJoined q j).source.total l counter =
      ((s.amount l.key counter j.actor.id).toWhole).mapError .total := by
  have cell : (RawRow.ofJoined q j).source.cell (.levelTotal l counter) =
      .ofNumber (s.amount l.key counter j.actor.id) := by
    show RawRow.levelCell j q.plan.levels l counter = _
    rw [RawRow.levelCell, if_pos (List.contains_iff_mem.2 listed),
      keyed.eval_total found planned (by simp [LevelSnapshot.key])]
  rw [SourceRow.total, cell]
  cases s.amount l.key counter j.actor.id <;> rfl

/-- The level of a row at a planned snapshot is the one that the store's totals give. -/
lemma WellKeyed.levelAt_eq (keyed : s.WellKeyed) (found : j ∈ s.joined n.actorTable q.plan)
    (listed : l ∈ q.plan.levels) (planned : l.key ∈ q.plan.snapshots) {ladder : Option Ladder} {level : Level}
    (h : (RawRow.ofJoined q j).source.levelAt ladder l = .ok level) : level = s.level ladder l j.actor.id := by
  have cut : ∀ counter value, (RawRow.ofJoined q j).source.total l counter = .ok value →
      (s.amount l.key counter j.actor.id).cut = value := by
    intro counter value total
    rw [keyed.total_eq found listed planned, mapError_eq_ok] at total
    rw [Amount.cut, total]
  obtain ⟨edits, total, h⟩ := bind_eq_ok.1 h
  obtain ⟨logEvents, total', h⟩ := bind_eq_ok.1 h
  obtain ⟨activeDays, total'', h⟩ := bind_eq_ok.1 h
  rw [Ladder.measure_eq_ok h, Store.level, cut _ _ total, cut _ _ total', cut _ _ total'']

/-- The identifier of the level of a row at a planned snapshot is that of the level in the store. -/
lemma WellKeyed.id?_levelAt (keyed : s.WellKeyed) (found : j ∈ s.joined n.actorTable q.plan)
    (listed : l ∈ q.plan.levels) (planned : l.key ∈ q.plan.snapshots) {ladder : Option Ladder} {level : Level}
    (h : (RawRow.ofJoined q j).source.levelAt ladder l = .ok level) :
    level.id? = s.levelId? ladder l j.actor.id :=
  congrArg Level.id? (keyed.levelAt_eq found listed planned h)

end Store

end ActivityReport
