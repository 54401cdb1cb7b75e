import ActivityReport.Proofs.Ladder.Measure
import ActivityReport.Proofs.Query.Coverage
import ActivityReport.Proofs.Query.Timeless
import ActivityReport.Proofs.Report.Counters
import ActivityReport.Proofs.Report.Levels
import ActivityReport.Proofs.Report.Provenance
import ActivityReport.Proofs.Report.Spans

/-!
# Reports without a first day

The level before the first day of all is the ground for everybody. It has no rung, so it is shown and compared like
no level at all; only its rank may differ, but it is the same in all rows. So the report on a window that begins
before all counters is the one without the first day, and columns over the period of a window without a first day
show what those since registration do (`Service.compile_timeless`).
-/

namespace ActivityReport

open Traced (Agree)

variable {first : Date}

/-! ## The ground -/

/-- Whether a level has no rung, and a number for its rank. -/
structure Level.IsGround (l : Level) : Prop where
  rung : l.rung = Option.none
  number : l.shownSortOrder.isNaN = false

lemma Level.isGround_none : Level.none.IsGround := ⟨rfl, by decide +kernel⟩

namespace Ladder

variable {ladder : Ladder}

/-- Nobody is on a rung without contributions. -/
lemma heldIndex?_zero (ladder : Ladder) : ladder.heldIndex? 0 0 = none := by
  cases held : ladder.heldIndex? 0 0 with
  | none => rfl
  | some i =>
    obtain ⟨rung, -, exceeded⟩ := getElem?_heldIndex? held
    rw [Rung.isExceeded_iff] at exceeded
    omega

/-- Without contributions nothing of the way to a rung is covered, or all of it where it has no length. -/
lemma shares?_zero (ladder : Ladder) :
    ∀ shares, ladder.shares? none 0 0 = some shares →
      (shares.1 = 0 ∨ shares.1 = 1) ∧ (shares.2 = 0 ∨ shares.2 = 1) := by
  have step : ∀ target : Int, stepProgress 0 0 target = 0 ∨ stepProgress 0 0 target = 1 := by
    intro target
    unfold stepProgress
    split
    · exact Or.inr rfl
    · left
      simp
  intro shares found
  obtain ⟨next, -, rfl⟩ := Option.map_eq_some_iff.1 found
  exact ⟨step _, step _⟩

/-- Without contributions everybody is on the ground, whichever the ladder. -/
lemma measure_zero (ladder : Ladder) : ladder.measure 0 0 = .ok (ladder.level 0 0) :=
  ladder.measure_eq_ok_level (Number.abs_lt_limit (k := 0) (by decide) (by decide))
    (Number.abs_lt_limit (k := 0) (by decide) (by decide))

lemma level_zero (ladder : Ladder) :
    ladder.level 0 0 = ⟨none, -1, ((ladder.shares? none 0 0).map fun shares =>
      clampFraction (if shares.2 < shares.1 then shares.2 else shares.1)).getD 0⟩ := by
  unfold level
  rw [heldIndex?_zero]
  rfl

lemma isGround_level_zero (ladder : Ladder) : (ladder.level 0 0).IsGround := by
  have covered : (ladder.level 0 0).progress = 0 ∨ (ladder.level 0 0).progress = 1 := by
    rw [level_zero]
    cases found : ladder.shares? none 0 0 with
    | none => exact Or.inl rfl
    | some shares =>
      obtain ⟨left, right⟩ := ladder.shares?_zero shares found
      rw [Option.map_some, Option.getD_some]
      rcases left with left | left <;> rcases right with right | right
      all_goals
        rw [left, right]
        decide +kernel
  have rank : (ladder.level 0 0).shownSortOrder =
      Number.ofInt (-1 + 1) + Number.ofRat (ladder.level 0 0).progress := by
    rw [level_zero]
    rfl
  refine ⟨by rw [level_zero], ?_⟩
  rw [rank]
  rcases covered with progress | progress
  all_goals
    rw [progress]
    decide +kernel

end Ladder

/-! ## Rows with levels -/

/-- The level that everybody has before the first day of all, when it is asked for. -/
def LevelSnapshot.ground (first : Date) (ladder : Option Ladder) (levels : List LevelSnapshot) : Level :=
  if ⟨.before, first⟩ ∈ levels then (ladder.getD []).level 0 0 else Level.none

lemma LevelSnapshot.isGround_ground (first : Date) (ladder : Option Ladder) (levels : List LevelSnapshot) :
    (ground first ladder levels).IsGround := by
  unfold ground
  split
  · exact Ladder.isGround_level_zero _
  · exact Level.isGround_none

/-- Whether a row with levels is another one, but for the level before a day, which is the ground in the other. -/
structure LevelledRow.Lessens (first : Date) (ground : Level) (row' row : LevelledRow) : Prop where
  id : row'.raw.id = row.raw.id
  name : row'.raw.shownName = row.raw.shownName
  column : ∀ i, row'.raw.cell (.column i) = row.raw.cell (.column i)
  finish : ∀ day, row'.levelAt (some ⟨.finish, day⟩) = row.levelAt (some ⟨.finish, day⟩)
  start : row.levelAt (some ⟨.before, first⟩) = ground

namespace SourceRow

variable {raw : SourceRow} {raw' : RawRow} {ladder : Option Ladder} {levels : List LevelSnapshot} {row : LevelledRow}

/-- At a snapshot that is not listed a row has no level. -/
lemma levelAt_of_not_mem (h : raw.withLevels ladder levels = .ok row) {l : LevelSnapshot} (unlisted : l ∉ levels) :
    row.levelAt (some l) = Level.none := by
  obtain ⟨list, each, made⟩ := bind_eq_ok.1 h
  rw [← Except.ok.inj made]
  have missing : list.find? (·.1 == l) = none := by
    refine List.find?_eq_none.2 fun found listed same => unlisted ?_
    obtain ⟨s, asked, measured⟩ := (mem_of_mapM_eq_ok each).1 listed
    obtain ⟨level, -, rfl⟩ := map_eq_ok.1 measured
    rw [← beq_iff_eq.1 same]
    exact asked
  show ((list.find? (·.1 == l)).map Prod.snd).getD Level.none = Level.none
  rw [missing]
  rfl

end SourceRow

namespace RawRow.Lessens

variable {row' row : RawRow} {ladder : Option Ladder} {levels : List LevelSnapshot}

/-- Before the first day everybody is on the ground. -/
lemma levelAt_start (h : row'.Lessens first row) :
    row.source.levelAt ladder ⟨.before, first⟩ = .ok ((ladder.getD []).level 0 0) := by
  have total : ∀ counter, row.source.total ⟨.before, first⟩ counter = .ok 0 := by
    intro counter
    unfold SourceRow.total source
    rcases h.start counter with none | zero
    · simp only [none]
      rfl
    · simp only [zero]
      rfl
  unfold SourceRow.levelAt
  rw [total, total, total]
  exact Ladder.measure_zero _

/-- At any other moment an actor has the same level in both rows. -/
lemma levelAt_eq (h : row'.Lessens first row) {l : LevelSnapshot} (late : l ≠ ⟨.before, first⟩) :
    row'.source.levelAt ladder l = row.source.levelAt ladder l := by
  have total : ∀ counter, row'.source.total l counter = row.source.total l counter := by
    intro counter
    unfold SourceRow.total
    rw [show row'.source.cell (.levelTotal l counter) = row.source.cell (.levelTotal l counter) from
      h.level l counter late]
  unfold SourceRow.levelAt
  rw [total, total, total]

/-- The levels of a row fail to be worked out alike. -/
lemma mapM_levelAt (h : row'.Lessens first row) (levels : List LevelSnapshot) :
    Corresponds (fun _ _ => True)
      ((levels.filter (· ≠ ⟨.before, first⟩)).mapM fun s => (s, ·) <$> row'.source.levelAt ladder s)
      (levels.mapM fun s => (s, ·) <$> row.source.levelAt ladder s) := by
  induction levels with
  | nil => exact .ok trivial
  | cons l rest ih =>
    by_cases start : l = ⟨.before, first⟩
    · rw [List.filter_cons, if_neg (by simp [start]), List.mapM_cons, start, h.levelAt_start]
      have more : ∀ {found' found : Except LevelFault (List (LevelSnapshot × Level))} (first : LevelSnapshot × Level),
          Corresponds (fun _ _ => True) found' found →
            Corresponds (fun _ _ => True) found' (found >>= fun list => .ok (first :: list)) := by
        intro found' found first both
        cases both with
        | ok _ => exact .ok trivial
        | error e => exact .error e
      exact more _ ih
    · rw [List.filter_cons, if_pos (decide_eq_true start), List.mapM_cons, List.mapM_cons, h.levelAt_eq start]
      refine (Corresponds.refl _).bind fun _ _ _ => ?_
      exact ih.bind fun _ _ _ => .ok trivial

/-- A row gets its levels without the one before the first day as it gets them with that. -/
lemma withLevels (h : row'.Lessens first row) :
    Corresponds (LevelledRow.Lessens first (LevelSnapshot.ground first ladder levels))
      (row'.source.withLevels ladder (levels.filter (· ≠ ⟨.before, first⟩)))
      (row.source.withLevels ladder levels) := by
  have success : Corresponds (fun _ _ => True)
      (row'.source.withLevels ladder (levels.filter (· ≠ ⟨.before, first⟩)))
      (row.source.withLevels ladder levels) := (h.mapM_levelAt levels).bind fun _ _ _ => .ok trivial
  refine success.results.mono ?_
  rintro lr' lr ⟨-, made', made⟩
  have raw' := SourceRow.raw_of_withLevels made'
  have raw := SourceRow.raw_of_withLevels made
  refine ⟨?_, ?_, fun i => ?_, fun day => ?_, ?_⟩
  · rw [raw', raw]
    exact congrArg Cell.int h.id
  · rw [raw', raw]
    unfold SourceRow.shownName source
    rw [h.name]
  · rw [raw', raw]
    exact h.column i
  · have late : (⟨.finish, day⟩ : LevelSnapshot) ≠ ⟨.before, first⟩ := fun same => by cases same
    by_cases listed : (⟨.finish, day⟩ : LevelSnapshot) ∈ levels
    · obtain ⟨level', own', same'⟩ := SourceRow.levelAt_of_withLevels made'
        (List.mem_filter.2 ⟨listed, decide_eq_true late⟩)
      obtain ⟨level, own, same⟩ := SourceRow.levelAt_of_withLevels made listed
      rw [h.levelAt_eq late, own] at own'
      rw [same', same, Except.ok.inj own']
    · rw [SourceRow.levelAt_of_not_mem made listed,
        SourceRow.levelAt_of_not_mem made' fun own => listed (List.mem_filter.1 own).1]
  · unfold LevelSnapshot.ground
    split
    · rename_i listed
      obtain ⟨level, own, same⟩ := SourceRow.levelAt_of_withLevels made listed
      rw [h.levelAt_start] at own
      rw [same, Except.ok.inj own]
    · rename_i unlisted
      exact SourceRow.levelAt_of_not_mem made unlisted

end RawRow.Lessens

/-! ## Levels that are kept and shown -/

/-- The values of columns are those of others with a rank for starting levels when this is so column by column. -/
lemma ReportRow.map_eq_withStartRank {columns : List LabelledColumn} {value value' : LabelledColumn → ColumnValue}
    {rank : Float} {id name : Cell} (each : ∀ c ∈ columns, value c = if c.column.type = .level .start
      then { value' c with rank := .float rank } else value' c) :
    (⟨id, name, columns.map value⟩ : ReportRow) =
      withStartRank (columns.map (·.column.type)) rank ⟨id, name, columns.map value'⟩ := by
  refine congrArg (ReportRow.mk id name) (List.ext_getElem? fun i => ?_)
  rw [List.getElem?_mapIdx, List.getElem?_map, List.getElem?_map, List.getElem?_map]
  cases listed : columns[i]? with
  | none => rfl
  | some c => simp only [Option.map_some, Option.some.injEq, each c (List.mem_of_getElem? listed)]

namespace LevelledRow.Lessens

variable {row' row : LevelledRow} {ground : Level} {w : Window}

/-- Without a first day nobody has a level at the start. -/
lemma change' (row' : LevelledRow) (w : Window) :
    row'.change w.withoutStart = ⟨Level.none, row'.levelAt (some ⟨.finish, w.finish⟩)⟩ := rfl

lemma change_eq (h : row'.Lessens first ground row) (start : w.start = some first) :
    row.change w = ⟨ground, row'.levelAt (some ⟨.finish, w.finish⟩)⟩ := by
  unfold change LevelSnapshot.atStart?
  rw [start, Option.map_some, h.start, h.finish]
  rfl

/-- The level changes alike. -/
lemma changed_eq (h : row'.Lessens first ground row) (start : w.start = some first) (noRung : ground.rung = none) :
    (row'.change w.withoutStart).finish = (row.change w).finish ∧
      (row'.change w.withoutStart).changed = (row.change w).changed := by
  rw [change', h.change_eq start]
  refine ⟨rfl, ?_⟩
  unfold LevelChange.changed Level.id?
  rw [noRung]
  rfl

/-- The row is kept or dropped for its levels in both reports. -/
lemma keepsLevels_eq (h : row'.Lessens first ground row) {r : Request} (start : r.window.start = some first)
    (noRung : ground.rung = none) : r.withoutStart.keepsLevels row' = r.keepsLevels row := by
  obtain ⟨finish, changed⟩ := h.changed_eq start noRung
  unfold Request.keepsLevels
  refine congrArg (List.all r.conditions) (funext fun c => ?_)
  show c.keeps (row'.change r.window.withoutStart) = c.keeps (row.change r.window)
  cases c with
  | level asked ids =>
    unfold Condition.keeps
    rw [finish, changed]
  | _ => rfl

/-- A column shows the same in both rows. -/
lemma shown_eq (h : row'.Lessens first ground row) (start : w.start = some first) (noRung : ground.rung = none)
    {c : LabelledColumn} (own : ∀ label, c.label = some label → ∃ i, label = .column i) :
    c.shown w row = c.shown w.withoutStart row' := by
  obtain ⟨finish, changed⟩ := h.changed_eq start noRung
  have starts : (row'.change w.withoutStart).start.rung = (row.change w).start.rung := by
    rw [change', h.change_eq start, noRung]
    rfl
  obtain ⟨column, label⟩ := c
  unfold LabelledColumn.shown
  cases label with
  | some label =>
    obtain ⟨i, rfl⟩ := own label rfl
    rw [h.name]
    cases column.type with
    | userName => rfl
    | _ => exact congrArg (ValueType.normalize _) (h.column i).symm
  | none =>
    rw [h.name]
    cases column.type with
    | level moment => cases moment <;> simp only [LevelMoment.shown, Level.shown, starts, finish, changed]
    | _ => rfl

/-- Only the rank of a column of starting levels may differ. -/
lemma value_eq (h : row'.Lessens first ground row) (start : w.start = some first) (noRung : ground.rung = none)
    {c : LabelledColumn} (own : ∀ label, c.label = some label → ∃ i, label = .column i) :
    c.value w row = if c.column.type = .level .start
        then { c.value w.withoutStart row' with rank := .float ground.shownSortOrder }
        else c.value w.withoutStart row' := by
  have shown := h.shown_eq start noRung own
  obtain ⟨finish, -⟩ := h.changed_eq start noRung
  unfold LabelledColumn.value
  rw [shown]
  cases c.column.type with
  | level moment =>
    cases moment with
    | start =>
      rw [if_pos rfl, h.change_eq start]
      rfl
    | finish | finishWithChange =>
      rw [if_neg (by decide)]
      simp only [LevelMoment.rank, finish]
    | sortOrder => rw [if_neg (by decide)]
  | _ => rfl

/-- Without a first day a starting level has the rank of no level. -/
lemma value_withoutStart (row' : LevelledRow) (w : Window) (c : LabelledColumn) :
    c.value w.withoutStart row' = if c.column.type = .level .start
        then { c.value w.withoutStart row' with rank := .float Level.none.shownSortOrder }
        else c.value w.withoutStart row' := by
  split
  · rename_i starting
    unfold LabelledColumn.value
    rw [starting]
    rfl
  · rfl

/-- The row of the report is the other one with another rank for starting levels. -/
lemma report_eq (h : row'.Lessens first ground row) (start : w.start = some first) (noRung : ground.rung = none)
    {l l' : Layout} (columns : l'.columns = l.columns)
    (own : ∀ c ∈ l.columns, ∀ label, c.label = some label → ∃ i, label = .column i) :
    row.report l w = (row'.report l' w.withoutStart).withStartRank l.types ground.shownSortOrder ∧
      row'.report l' w.withoutStart =
        (row'.report l' w.withoutStart).withStartRank l.types Level.none.shownSortOrder := by
  unfold report
  rw [columns, h.id, h.name]
  exact ⟨ReportRow.map_eq_withStartRank fun c listed => h.value_eq start noRung (own c listed),
    ReportRow.map_eq_withStartRank fun c _ => value_withoutStart row' w c⟩

end LevelledRow.Lessens

namespace Layout

variable {l l' : Layout} {r : Request} {rows' rows : List RawRow}

/-- The rows get their levels alike, and the same ones are kept. -/
lemma levelled_agree (start : r.window.start = some first) (ladders : l'.ladder = l.ladder)
    (levels : l'.levels = l.levels.filter (· ≠ ⟨.before, first⟩))
    (lessened : List.Forall₂ (RawRow.Lessens first) rows' rows) :
    Agree (List.Forall₂ (LevelledRow.Lessens first (LevelSnapshot.ground first l.ladder l.levels)))
      (l'.levelled r.withoutStart (rows'.map RawRow.source)) (l.levelled r (rows.map RawRow.source)) := by
  have noRung := (LevelSnapshot.isGround_ground first l.ladder l.levels).rung
  have sources : List.Forall₂ (fun raw' raw => ∃ row' row : RawRow, row'.Lessens first row ∧ raw' = row'.source ∧
      raw = row.source) (rows'.map RawRow.source) (rows.map RawRow.source) :=
    List.rel_map (fun row' row less => ⟨row', row, less, rfl, rfl⟩) lessened
  have worked : Corresponds (List.Forall₂ (LevelledRow.Lessens first (LevelSnapshot.ground first l.ladder l.levels)))
      (l'.withLevels (rows'.map RawRow.source)) (l.withLevels (rows.map RawRow.source)) := by
    unfold withLevels
    rw [ladders, levels]
    refine Corresponds.mapM sources ?_
    rintro _ _ ⟨row', row, less, rfl, rfl⟩
    exact less.withLevels
  unfold levelled
  refine Agree.ite_logAll_bind ((Agree.result worked.mapError).bind fun all' all each => ?_)
  show Agree _ (if r.requiresLevels then _ else _) (if r.requiresLevels then _ else _)
  split
  · refine Agree.logAll_bind (.pure (List.rel_filter (fun row' row less => ?_) each))
    show r.withoutStart.keepsLevels row' = true ↔ r.keepsLevels row = true
    rw [less.keepsLevels_eq start noRung]
  · exact .pure each

/-- The report is the same without the first day of all. -/
lemma report_withoutStart (start : r.window.start = some first) (ladders : l'.ladder = l.ladder)
    (levels : l'.levels = l.levels.filter (· ≠ ⟨.before, first⟩)) (columns : l'.columns = l.columns)
    (own : ∀ c ∈ l.columns, ∀ label, c.label = some label → ∃ i, label = .column i)
    (lessened : List.Forall₂ (RawRow.Lessens first) rows' rows) (rules : NumberingRules) (groups : GroupSource) :
    Agree Eq (l'.report r.withoutStart rules groups (rows'.map RawRow.source))
      (l.report r rules groups (rows.map RawRow.source)) := by
  have ground := LevelSnapshot.isGround_ground first l.ladder l.levels
  have types : l'.types = l.types := by
    unfold Layout.types
    rw [columns]
  refine @report_agree l' l r.withoutStart r groups columns rfl rfl rules _ _ fun clock => ?_
  obtain ⟨results, clocks⟩ := levelled_agree start ladders levels lessened clock
  refine ⟨results.mono fun kept' kept each => ?_, clocks⟩
  refine ⟨kept'.map (·.report l' r.window.withoutStart), Level.none.shownSortOrder,
    (LevelSnapshot.ground first l.ladder l.levels).shownSortOrder, Level.isGround_none.number, ground.number, ?_, ?_⟩
  · rw [List.map_map, types]
    exact List.map_congr_left fun row' listed => by
      obtain ⟨row, -, less⟩ := exists_of_mem_forall₂ each listed
      exact (less.report_eq start ground.rung columns own).2
  · rw [List.map_map, types]
    exact (map_eq_of_forall₂ each fun row' row less => (less.report_eq start ground.rung columns own).1.symm).symm

end Layout

/-! ## Results -/

/-- The labels of columns are those of their positions. -/
lemma Layout.column_of_label {r : Request} {q : Query} {ladder : Option Ladder} :
    ∀ c ∈ (Service.layout r q ladder).columns, ∀ label, c.label = some label → ∃ i, label = .column i := by
  intro c listed label own
  obtain ⟨i, found⟩ := List.getElem?_of_mem listed
  obtain ⟨_, found', -, labelled, rfl⟩ := List.getElem?_zipWith_eq_some.1 found
  obtain rfl : found' = some label := own
  unfold Query.labels at labelled
  rw [List.getElem?_mapIdx] at labelled
  obtain ⟨e, -, made⟩ := Option.map_eq_some_iff.1 labelled
  obtain ⟨_, -, made⟩ := Option.map_eq_some_iff.1 made
  exact ⟨i, made.symm⟩

/-- A request without columns that needs a level needs the one at the last day. -/
lemma JoinPlan.atFinish_mem_levels {r : Request} {p : JoinPlan} (planned : ofRequest r = .ok p)
    (noColumns : r.columns = []) {l : LevelSnapshot} (listed : l ∈ p.levels) :
    LevelSnapshot.atFinish r.window ∈ p.levels := by
  obtain ⟨required, needed, rfl⟩ := ofRequest_eq_ok.1 planned
  rw [mem_levels_ofNeeds, noColumns, List.flatMap_nil, List.nil_append, List.mem_flatten] at listed ⊢
  obtain ⟨list, part, level⟩ := listed
  refine ⟨list, part, ?_⟩
  obtain ⟨c, -, own⟩ := (mem_of_mapM_eq_ok needed).1 part
  cases c with
  | level changed ids =>
    cases own
    exact List.mem_cons_self
  | threshold t =>
    obtain ⟨k, same, -⟩ := t.isSnapshot_of_mem_needs own level
    cases same
  | milestone counter milestones =>
    cases milestones with
    | nil =>
      cases own
      cases level
    | cons m rest =>
      cases own
      cases start : r.window.start <;> simp [Window.needSpan, Window.needBefore, Window.needFinish, start] at level
  | _ =>
    cases own
    cases level

/-- A request without columns looks at levels without the first day when it does so with that day. -/
lemma JoinPlan.Lessens.isEmpty_levels {r : Request} {p p' : JoinPlan} (h : p'.Lessens first p)
    (planned : ofRequest r = .ok p) (noColumns : r.columns = []) : p'.levels.isEmpty = p.levels.isEmpty := by
  rw [h.levels, Bool.eq_iff_iff, List.isEmpty_iff, List.isEmpty_iff]
  refine ⟨fun none => List.eq_nil_iff_forall_not_mem.2 fun l listed => ?_, fun none => by rw [none]; rfl⟩
  have finish := atFinish_mem_levels planned noColumns listed
  have late : LevelSnapshot.atFinish r.window ≠ ⟨.before, first⟩ :=
    fun same => by cases congrArg LevelSnapshot.boundary same
  have kept : LevelSnapshot.atFinish r.window ∈ p.levels.filter (· ≠ ⟨.before, first⟩) :=
    List.mem_filter.2 ⟨finish, decide_eq_true late⟩
  rw [none] at kept
  cases kept

namespace Service

variable {x : Service} {r : Request} {q q' : Query}

/-- The query without the first day of all is answered like the one with it. -/
lemma answersAlike_withoutStart (start : r.window.start = some first)
    (stored : ∀ s, x.database.store = some s → s.WellKeyed ∧ s.StartsAt first)
    (stands : q'.StandsFor (JoinedRow.NothingBefore first) q) (plan : q'.plan.Lessens first q.plan)
    (planned : JoinPlan.ofRequest r = .ok q.plan)
    (taken : (q.plan.isJoinable (x.settings.naming r.wikiId).actorTable && q.isWithinLimits) = true) :
    x.AnswersAlike r.withoutStart r q' q (List.Forall₂ (RawRow.Lessens first)) where
  executed := by
    refine Database.execute_corresponds ?_ (stands.all_parameters plan _) fun s found => ?_
    · exact (stands.noLarger.isTaken _ taken).trans taken.symm
    · exact (stored s found).2.rows_lessen (stored s found).1 stands plan
  asked := rfl
  levels empty := plan.isEmpty_levels planned (List.isEmpty_iff.1 empty)
  ids rows' rows lessened := map_eq_of_forall₂ lessened fun _ _ less => less.id
  kept rows' rows lessened ladder := by
    unfold Layout.actorIds
    refine (@Layout.levelled_agree first (layout r q ladder) (layout r.withoutStart q' ladder) r rows' rows start rfl
      plan.levels lessened).bind fun kept' kept each => ?_
    exact .pure (map_eq_of_forall₂ each fun _ _ less => less.id)
  reported rows' rows lessened ladder botGroup bots groups := by
    refine @Layout.report_withoutStart first (layout r q ladder) (layout r.withoutStart q' ladder) r rows' rows start
      rfl plan.levels ?_ Layout.column_of_label lessened _ groups
    show r.columns.zipWith LabelledColumn.mk q'.labels = r.columns.zipWith LabelledColumn.mk q.labels
    rw [stands.noLarger.labels_eq]

/-- A window that begins before all counters may go without its first day, unless the query with it is too large. -/
lemma compile_withoutStart {bots : Option (List String)} (start : r.window.start = some first)
    (avoids : ∀ c ∈ r.conditions, c.AvoidsStart)
    (stored : ∀ s, x.database.store = some s → s.WellKeyed ∧ s.StartsAt first)
    (taken : ∀ q, Query.ofRequest r = .ok q →
      (q.plan.isJoinable (x.settings.naming r.wikiId).actorTable && q.isWithinLimits) = true) (clock : List Float) :
    ((x.compile bots r.withoutStart).run clock).result = ((x.compile bots r).run clock).result ∨
      ∃ q' q f, Query.ofRequest r.withoutStart = .ok q' ∧ Query.ofRequest r = .ok q ∧
        x.database.tablesOf (x.settings.naming r.wikiId) = .error (.database f) ∧
        ((x.compile bots r.withoutStart).run clock).result = .error (.incident (queryIncident r.withoutStart q' f)) ∧
        ((x.compile bots r).run clock).result = .error (.incident (queryIncident r q f)) := by
  have answers : ∀ q' q, (q'.StandsFor (JoinedRow.NothingBefore first) q ∧ q'.plan.Lessens first q.plan) ∧
      Query.ofRequest r.withoutStart = .ok q' ∧ Query.ofRequest r = .ok q → ∀ ladder bots,
        Agree Eq (x.answer r.withoutStart q' ladder bots) (x.answer r q ladder bots) := by
    rintro q' q ⟨⟨stands, plan⟩, -, built⟩
    have planned : JoinPlan.ofRequest r = .ok q.plan := by
      obtain ⟨p, planned, h⟩ := bind_eq_ok.1 built
      rw [Query.plan_of_ofPlan h]
      exact mapError_eq_ok.1 planned
    exact (answersAlike_withoutStart start stored stands plan planned (taken q built)).answer_agree rfl
  have ladders : x.resources.resolveLadder r.withoutStart = x.resources.resolveLadder r := rfl
  have flagless : x.resources.resolveFlaglessBots r.withoutStart = x.resources.resolveFlaglessBots r := rfl
  rcases compile_alike ladders flagless (Query.ofRequest_withoutStart start avoids).results answers clock with
    same | ⟨q', q, f, ⟨-, built', built⟩, refused, results⟩
  · exact Or.inl same
  · exact Or.inr ⟨q', q, f, built', built, Database.tablesOf_of_execute (taken q built) refused, results⟩

/-- The first day of a window matters only for what lies before it. Without a first day, columns over the period of
the window may be replaced by those since registration: the result is the same, unless the query with the longer
expressions exceeds the limits of the database. A first day before which there are no counters may be left out when
no condition is measured at the start of the period: the result is the same, unless the query with the first day
has too many joins or exceeds the limits. Where the database has no tables of the wiki it refuses both queries alike,
each with its own number of joins. -/
theorem compile_timeless (x : Service) (bots : Option (List String)) (r : Request) (clock : List Float) :
    (r.window.start = none → (∀ q, Query.ofRequest r = .ok q → q.isWithinLimits = true) →
      ∀ columns, List.Forall₂ Column.Extends columns r.columns →
        ((x.compile bots (r.withColumns columns)).run clock).result = ((x.compile bots r).run clock).result) ∧
    ∀ first, r.window.start = some first → (∀ c ∈ r.conditions, c.AvoidsStart) →
      (∀ s, x.database.store = some s → s.WellKeyed ∧ s.StartsAt first) →
      (∀ q, Query.ofRequest r = .ok q →
        (q.plan.isJoinable (x.settings.naming r.wikiId).actorTable && q.isWithinLimits) = true) →
      ((x.compile bots r.withoutStart).run clock).result = ((x.compile bots r).run clock).result ∨
        ∃ q' q f, Query.ofRequest r.withoutStart = .ok q' ∧ Query.ofRequest r = .ok q ∧
          x.database.tablesOf (x.settings.naming r.wikiId) = .error (.database f) ∧
          ((x.compile bots r.withoutStart).run clock).result =
            .error (.incident (queryIncident r.withoutStart q' f)) ∧
          ((x.compile bots r).run clock).result = .error (.incident (queryIncident r q f)) :=
  ⟨fun timeless within _ extended => compile_withColumns timeless extended within clock,
    fun _ start avoids stored taken => compile_withoutStart start avoids stored taken clock⟩

end Service

/-! ### A whole history -/

/-- A test that every value of a result passes is passed by its value. -/
lemma forall_of_all {ε α : Type} {r : Except ε α} {p : α → Bool} (h : r.toOption.all p = true) :
    ∀ a, r = .ok a → p a = true := by
  rintro a rfl
  exact h

/-- A store of one actor with two edits on one day, both in one namespace. -/
def Store.ofNamespace : Store where
  actors := [⟨1, "A", true, none⟩]
  counters :=
    [.uniform (some 1) Date.mayFifth 2 0, ⟨some 1, .inNamespace 3, Date.mayFifth, fun _ => 2, fun _ => 0⟩]
  groups := []
  templates := []

/-- The service of that store. -/
def Service.ofNamespace : Service := { Service.small with database := ⟨"w", some Store.ofNamespace⟩ }

/-- The first of January 2023. -/
def Date.newYear : Date := ⟨738521, by decide, by decide⟩

/-- The level at the start of the period and the day of the second edit, besides some edits, of the actors that
reach a level during the period up to the end of 2023. -/
def Json.ofHistory (type : String) (start : List (String × Json)) : Json :=
  .object ([("wikiId", .text "w"), ("columns", .list [.object [("type", .text type)],
      .object [("type", .text "levelAtPeriodStart")],
      .object [("type", .text "editsSinceRegistrationMilestone"), ("milestones", .list [.int 2])]]),
    ("requirements", .object [("hasLevelAndChanged", .list [.text "a"])]),
    ("orderBy", .list [.object [("columnId", .text "column1"), ("direction", .text "asc")]]),
    ("serviceAwardLevels", .list [.object [("id", .text "a"), ("label", .text "A"), ("requiredContributions", .int 0),
      ("requiredActiveDays", .int 0)]])] ++ start ++ [("endDate", .text "2023-12-31")])

/-- The history of the one actor lies in 2023. Without the first day of that year, and then with the edits since
registration, its report is the same. -/
theorem Service.compile_of_whole_history :
    ∃ r columns answer,
      Payload.readRequest (.ofHistory "editsInPeriod" [("startDate", .text "2023-01-01")]) = .ok r ∧
      Payload.readRequest (.ofHistory "editsInPeriod" []) = .ok r.withoutStart ∧
      Payload.readRequest (.ofHistory "editsSinceRegistration" []) = .ok (r.withoutStart.withColumns columns) ∧
      r.window.start = some Date.newYear ∧ (∀ c ∈ r.conditions, c.AvoidsStart) ∧
      Store.ofNamespace.WellKeyed ∧ Store.ofNamespace.StartsAt Date.newYear ∧
      (∀ q, Query.ofRequest r = .ok q →
        (q.plan.isJoinable (ofNamespace.settings.naming r.wikiId).actorTable && q.isWithinLimits) = true) ∧
      (∀ q, Query.ofRequest r.withoutStart = .ok q → q.isWithinLimits = true) ∧
      List.Forall₂ Column.Extends columns r.withoutStart.columns ∧
      answer.wholes = [(some 1, [some 2, none, some 2])] ∧
      ((ofNamespace.compile none r).run []).result = .ok answer ∧
      ((ofNamespace.compile none r.withoutStart).run []).result = .ok answer ∧
      ((ofNamespace.compile none (r.withoutStart.withColumns columns)).run []).result = .ok answer := by
  obtain ⟨r, columns, parsed, timeless, replaced, start, conditions, taken, within, extended, succeeds⟩ :
      ∃ r columns,
        Payload.readRequest (.ofHistory "editsInPeriod" [("startDate", .text "2023-01-01")]) = .ok r ∧
        Payload.readRequest (.ofHistory "editsInPeriod" []) = .ok r.withoutStart ∧
        Payload.readRequest (.ofHistory "editsSinceRegistration" []) = .ok (r.withoutStart.withColumns columns) ∧
        r.window.start = some Date.newYear ∧ r.conditions = [.level true ["a"]] ∧
        ((Query.ofRequest r).toOption.all fun q =>
          q.plan.isJoinable (ofNamespace.settings.naming r.wikiId).actorTable && q.isWithinLimits) = true ∧
        (Query.ofRequest r.withoutStart).toOption.all Query.isWithinLimits = true ∧
        List.Forall₂ Column.Extends columns r.withoutStart.columns ∧
        (((ofNamespace.compile none r).run []).result.toOption.any fun a =>
          a.wholes == [(some 1, [some 2, none, some 2])]) = true :=
    ⟨_, _, rfl, rfl, rfl, rfl, rfl, by decide +kernel, by decide +kernel,
      .cons (Or.inr rfl) (.cons (Or.inl rfl) (.cons (Or.inl rfl) .nil)), by decide +kernel⟩
  have avoids : ∀ c ∈ r.conditions, c.AvoidsStart := by
    rw [conditions]
    rintro c listed t rfl
    cases List.mem_singleton.1 listed
  have keyed : Store.ofNamespace.WellKeyed := ⟨by decide, by decide, by decide, by decide⟩
  have starts : Store.ofNamespace.StartsAt Date.newYear := fun row listed => by
    revert row
    decide
  have stored : ∀ s, ofNamespace.database.store = some s → s.WellKeyed ∧ s.StartsAt Date.newYear := by
    rintro s own
    cases Option.some.inj own
    exact ⟨keyed, starts⟩
  obtain ⟨answer, compiled, shown⟩ := exists_of_any succeeds
  have undated : ((ofNamespace.compile none r.withoutStart).run []).result = .ok answer := by
    rcases (compile_timeless ofNamespace none r []).2 Date.newYear start avoids stored (forall_of_all taken) with
      same | ⟨q', q, f, -, -, -, -, refused⟩
    · rw [same, compiled]
    · rw [compiled] at refused
      cases refused
  have registered : ((ofNamespace.compile none (r.withoutStart.withColumns columns)).run []).result = .ok answer := by
    rw [(compile_timeless ofNamespace none r.withoutStart []).1 rfl (forall_of_all within) columns extended, undated]
  exact ⟨r, columns, answer, parsed, timeless, replaced, start, avoids, keyed, starts, forall_of_all taken,
    forall_of_all within, extended, eq_of_beq shown, compiled, undated, registered⟩

/-! ### Many namespaces -/

/-- A result that passes a test differs from one without a value. -/
lemma ne_of_isNone {ε α : Type} {r r' : Except ε α} {p : α → Bool} (fails : r.toOption.isNone = true)
    (succeeds : r'.toOption.any p = true) : r' ≠ r := by
  rintro rfl
  obtain ⟨a, rfl, -⟩ := exists_of_any succeeds
  cases fails

/-- A value that is found is a result that is checked. -/
lemma Checked.eq_ok_of_value? {α : Type} {x : Checked α} {a : α} (h : x.value? = some a) : x = .ok a := by
  cases x with
  | ok b => rw [Option.some.inj h]
  | refused issues => cases h

/-- The edits in some namespaces up to the end of 2023, perhaps from some day on. -/
def Json.ofNamespaces (type : String) (namespaces : List Int) (start : List (String × Json)) : Json :=
  .object ([("wikiId", .text "w"), ("columns", .list [.object [("type", .text type),
    ("namespace", .list (namespaces.map .int))]])] ++ start ++ [("endDate", .text "2023-12-31")])

/-- The edits in one namespace, asked for many times over. -/
def Request.ofNamespaces (span : Span) : Request where
  wikiId := "w"
  columns := [{
    type := .count .edits span .none .namespaces
    id := none
    parameter := .scopes (.namespaces (List.replicate 997 3))
    moreThanZero := false
    fits := by cases span <;> rfl }]
  requirements := none
  orderBy := []
  itemCount := none
  window := Request.ofHiddenType.window
  skipBots := false
  ladder := none
  ordered := Request.ofHiddenType.ordered

/-- Without a first day, 997 differences are too deep for the database and as many totals are not; with a first day
before all counters, 32 namespaces take too many joins and half as many do not. -/
theorem Service.compile_differs_of_many_namespaces :
    (∃ r r', Payload.readRequest (.ofNamespaces "editsInNamespaceInPeriod" (List.replicate 997 3) []) = .ok r ∧
      Payload.readRequest (.ofNamespaces "editsInNamespaceSinceRegistration" (List.replicate 997 3) []) = .ok r' ∧
      r.window.start = none ∧ r' = r.withColumns r'.columns ∧ List.Forall₂ Column.Extends r'.columns r.columns ∧
      ((Service.ofNamespace.compile none r').run []).result ≠ ((Service.ofNamespace.compile none r).run []).result) ∧
    ∃ r first, Payload.readRequest (.ofNamespaces "editsInNamespaceInPeriod" ((List.range 32).map fun n => (n : Int))
        [("startDate", .text "2020-01-01")]) = .ok r ∧
      Payload.readRequest (.ofNamespaces "editsInNamespaceInPeriod" ((List.range 32).map fun n => (n : Int)) []) =
        .ok r.withoutStart ∧
      r.window.start = some first ∧ r.conditions = [] ∧ Store.ofNamespace.WellKeyed ∧
      (∀ row ∈ Store.ofNamespace.counters, first < row.date) ∧
      ((Service.ofNamespace.compile none r.withoutStart).run []).result ≠
        ((Service.ofNamespace.compile none r).run []).result := by
  refine ⟨⟨Request.ofNamespaces .inPeriod, Request.ofNamespaces .sinceRegistration,
    Checked.eq_ok_of_value? (by decide +kernel), Checked.eq_ok_of_value? (by decide +kernel), rfl, rfl,
    .cons (Or.inr rfl) .nil, ?_⟩, _, _, rfl, rfl, rfl, rfl, ⟨by decide, by decide, by decide, by decide⟩,
    by decide, ?_⟩
  all_goals
    refine ne_of_isNone (p := fun a => a.size == 1) ?_ ?_
    all_goals decide +kernel

end ActivityReport
