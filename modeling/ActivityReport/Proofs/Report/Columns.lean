import ActivityReport.Proofs.Report.Counters
import ActivityReport.Proofs.Store.Groups

/-!
# What a column shows

What a column shows for an actor is a function of the store, the window, the ladder and the column alone
(`Store.shown`, `Service.shown_of_compile`). Columns share joins, labels and levels with one another and
with the conditions, but what a column reads is planned under keys of its own; so nothing else that is asked
for has an influence on it (`Service.shown_alike`).
-/

namespace ActivityReport

open Traced (ComesTo)

/-! ## Values of columns -/

namespace Store

/-- The levels of an actor at the two ends of a window. -/
def levelChange (s : Store) (w : Window) (ladder : Option Ladder) (actorId : Int) : LevelChange :=
  ⟨((LevelSnapshot.atStart? w).map fun l => s.level ladder l actorId).getD Level.none,
    s.level ladder (LevelSnapshot.atFinish w) actorId⟩

/-- What a column shows for an actor; numbers are given to rows, not to actors. -/
def shown (s : Store) (actorTable : String) (w : Window) (ladder : Option Ladder) (c : Column) (a : Actor) : Cell :=
  match c.type with
  | .rowNumber => .null
  | .userName => .text a.name
  | .userGroups => .list ((s.groupsOf a.id).map .text)
  | .level moment => moment.shown (s.levelChange w ladder a.id)
  | type => type.valueType.normalize ((c.expression? w).elim .null fun e =>
      e.eval (s.joinedRow actorTable (.ofNeeds (c.needs w)) a))

variable {s : Store} {actorTable : String} {w : Window} {ladder : Option Ladder} {c c' : Column} {a : Actor}

/-- A column with an expression shows its value. -/
lemma shown_of_expression {e : Expression} (expressed : c.expression? w = some e) :
    s.shown actorTable w ladder c a =
      c.type.valueType.normalize (e.eval (s.joinedRow actorTable (.ofNeeds (c.needs w)) a)) := by
  unfold shown
  cases type : c.type
  case rowNumber | userName | userGroups | level => simp [Column.expression?, type] at expressed
  all_goals rw [expressed]; rfl

/-- What is shown depends on the type and the parameter of a column only. -/
lemma shown_congr (type : c.type = c'.type) (parameter : c.parameter = c'.parameter) :
    s.shown actorTable w ladder c a = s.shown actorTable w ladder c' a := by
  obtain ⟨_, _, _, _, _⟩ := c
  obtain ⟨_, _, _, _, _⟩ := c'
  cases type
  cases parameter
  rfl

/-- Only what a level column shows depends on the ladder. -/
lemma shown_congr_ladder (noLevel : c.isLevel = false) (ladder' : Option Ladder) :
    s.shown actorTable w ladder c a = s.shown actorTable w ladder' c a := by
  unfold shown
  cases type : c.type
  case level moment => simp [Column.isLevel, type, ColumnType.levelMoment?] at noLevel
  all_goals rfl

end Store

/-- What a level column shows, and what it is ordered by, is made of the levels that it needs. -/
lemma LevelMoment.shown_congr {w : Window} {c : Column} {moment : LevelMoment} (type : c.type = .level moment)
    {change change' : LevelChange}
    (start : (∀ l, LevelSnapshot.atStart? w = some l → .level l ∈ c.needs w) → change.start = change'.start)
    (finish : .level (LevelSnapshot.atFinish w) ∈ c.needs w → change.finish = change'.finish) :
    moment.shown change = moment.shown change' ∧ moment.rank change = moment.rank change' := by
  have before : ∀ l, LevelSnapshot.atStart? w = some l → .level l ∈ w.needLevelBefore := by
    intro l found
    rw [Window.needLevelBefore, found]
    exact List.mem_singleton_self _
  cases moment with
  | start =>
    rw [shown, shown, rank, rank, start fun l found => by rw [Column.needs, type]; exact before l found]
    exact ⟨rfl, rfl⟩
  | finish | sortOrder =>
    rw [shown, shown, rank, rank, finish (by rw [Column.needs, type]; exact List.mem_singleton_self _)]
    exact ⟨rfl, rfl⟩
  | finishWithChange =>
    have same : change = change' := by
      have first := start fun l found => by rw [Column.needs, type]; exact List.mem_append_left _ (before l found)
      have last := finish (by rw [Column.needs, type]; exact List.mem_append_right _ (List.mem_singleton_self _))
      obtain ⟨_, _⟩ := change
      obtain ⟨_, _⟩ := change'
      cases first
      cases last
      rfl
    rw [same]
    exact ⟨rfl, rfl⟩

/-! ## Cells of a report -/

namespace Service

variable {s : Store} {r : Request} {q : Query} {p : JoinPlan} {ladder : Option Ladder} {n : Naming} {j : JoinedRow}
  {levelled : LevelledRow} {c : Column}

/-- What a column needs is planned for the request. -/
lemma mem_plan_of_column (planned : JoinPlan.ofRequest r = .ok p) (asked : c ∈ r.columns) :
    (∀ k, .snapshot k ∈ c.needs r.window → k ∈ p.snapshots) ∧ (∀ k, .range k ∈ c.needs r.window → k ∈ p.ranges) ∧
      ∀ l, .level l ∈ c.needs r.window → l ∈ p.levels := by
  obtain ⟨required, -, rfl⟩ := JoinPlan.ofRequest_eq_ok.1 planned
  have needed : ∀ need ∈ c.needs r.window, need ∈ r.columns.flatMap (·.needs r.window) ++ required.flatten :=
    fun need own => List.mem_append_left _ (List.mem_flatMap.2 ⟨c, asked, own⟩)
  exact ⟨fun k own => JoinPlan.mem_snapshots_ofNeeds.2 (Or.inl (needed _ own)),
    fun k own => JoinPlan.mem_ranges_ofNeeds.2 (needed _ own),
    fun l own => JoinPlan.mem_levels_ofNeeds.2 (needed _ own)⟩

/-- In a joined row an expression has the value that it has when nothing but the column is asked for. -/
lemma eval_eq (keyed : s.WellKeyed) (planned : JoinPlan.ofRequest r = .ok p) {actorTable : String}
    (found : j ∈ s.joined actorTable p) (asked : c ∈ r.columns) {e : Expression}
    (expressed : c.expression? r.window = some e) :
    e.eval j = e.eval (s.joinedRow actorTable (.ofNeeds (c.needs r.window)) j.actor) := by
  obtain ⟨snapshots, ranges, -⟩ := mem_plan_of_column planned asked
  have same := (keyed.eq_joinedRow_of_mem found).1
  refine Expression.eval_congr rfl (fun k reads => ?_) fun k reads => ?_
  · have needed : .snapshot k ∈ c.needs r.window := Column.snapshot_mem_needs.2 (Or.inl ⟨e, expressed, reads⟩)
    rw [same, Store.snapshot?_joinedRow (snapshots k needed),
      Store.snapshot?_joinedRow (JoinPlan.mem_snapshots_ofNeeds.2 (Or.inl needed))]
    rfl
  · have needed : .range k ∈ c.needs r.window := Column.range_mem_needs.2 ⟨e, expressed, reads⟩
    rw [same, Store.range?_joinedRow (ranges k needed),
      Store.range?_joinedRow (JoinPlan.mem_ranges_ofNeeds.2 needed)]
    rfl

/-- At a planned snapshot a row has the level of its actor. -/
lemma levelAt_eq (keyed : s.WellKeyed) (planned : JoinPlan.ofRequest r = .ok q.plan)
    (found : j ∈ s.joined n.actorTable q.plan)
    (own : (RawRow.ofJoined q j).source.withLevels ladder q.plan.levels = .ok levelled) {l : LevelSnapshot}
    (listed : l ∈ q.plan.levels) : levelled.levelAt (some l) = s.level ladder l j.actor.id := by
  obtain ⟨level, measured, rfl⟩ := SourceRow.levelAt_of_withLevels own listed
  obtain ⟨required, -, same⟩ := JoinPlan.ofRequest_eq_ok.1 planned
  have key : l.key ∈ q.plan.snapshots := by
    rw [same] at listed ⊢
    exact JoinPlan.key_mem_ofNeeds listed
  exact keyed.levelAt_eq found listed key measured

/-- A row has the levels of its actor at the ends of the window that a column needs. -/
lemma change_eq (keyed : s.WellKeyed) (planned : JoinPlan.ofRequest r = .ok q.plan)
    (found : j ∈ s.joined n.actorTable q.plan)
    (own : (RawRow.ofJoined q j).source.withLevels ladder q.plan.levels = .ok levelled) (asked : c ∈ r.columns) :
    ((∀ l, LevelSnapshot.atStart? r.window = some l → .level l ∈ c.needs r.window) →
      (levelled.change r.window).start = (s.levelChange r.window ladder j.actor.id).start) ∧
    (.level (LevelSnapshot.atFinish r.window) ∈ c.needs r.window →
      (levelled.change r.window).finish = (s.levelChange r.window ladder j.actor.id).finish) := by
  obtain ⟨-, -, levels⟩ := mem_plan_of_column planned asked
  refine ⟨fun needed => ?_, fun needed => ?_⟩
  · cases start : LevelSnapshot.atStart? r.window with
    | none => simp only [LevelledRow.change, Store.levelChange, start]; rfl
    | some l =>
      simp only [LevelledRow.change, Store.levelChange, start]
      exact levelAt_eq keyed planned found own (levels l (needed l start))
  · exact levelAt_eq keyed planned found own (levels _ needed)

/-- A level column shows the levels of its actor, and is ordered by them. -/
lemma shown_change (keyed : s.WellKeyed) (planned : JoinPlan.ofRequest r = .ok q.plan)
    (found : j ∈ s.joined n.actorTable q.plan)
    (own : (RawRow.ofJoined q j).source.withLevels ladder q.plan.levels = .ok levelled) (asked : c ∈ r.columns)
    {moment : LevelMoment} (type : c.type = .level moment) :
    moment.shown (levelled.change r.window) = moment.shown (s.levelChange r.window ladder j.actor.id) ∧
      moment.rank (levelled.change r.window) = moment.rank (s.levelChange r.window ladder j.actor.id) := by
  obtain ⟨start, finish⟩ := change_eq keyed planned found own asked
  exact LevelMoment.shown_congr type start finish

/-- In each column that does not number rows a finished row shows what the column shows for the actor. -/
lemma getElem?_values_shown (keyed : s.WellKeyed) (planned : JoinPlan.ofRequest r = .ok p)
    (built : Query.ofPlan p r = .ok q) (found : j ∈ s.joined n.actorTable q.plan)
    (own : (RawRow.ofJoined q j).source.withLevels ladder q.plan.levels = .ok levelled) {g : GroupedRow}
    (same : g.row = levelled.report (layout r q ladder) r.window) (looked : g.IsLookedUp (groupSource s).lookup)
    (number : Cell) {i : Nat} (asked : r.columns[i]? = some c) (noNumber : c.type ≠ .rowNumber) :
    (g.finish (r.columns.map Column.type) number).values[i]? =
      some (s.shown n.actorTable r.window ladder c j.actor) := by
  have plan := Query.plan_of_ofPlan built
  have listed := List.mem_of_getElem? asked
  -- a column is shown from its expression in the query or, where it has none, from what is known of the actor
  cases expressed : c.expression? r.window with
  | some e =>
    rw [getElem?_values built own same number asked expressed, Store.shown_of_expression expressed]
    rw [plan] at found
    rw [eval_eq keyed planned found listed expressed]
  | none =>
    have id : g.row.id = .int j.actor.id := by
      rw [same, LevelledRow.report, SourceRow.raw_of_withLevels own]
      rfl
    have value : g.row.values[i]? = some ((LabelledColumn.mk c none).value r.window levelled) := by
      rw [same, LevelledRow.report, List.getElem?_map, getElem?_columns built, asked]
      simp only [Option.map_some, expressed, Option.map_none]
    rw [GroupedRow.finish, List.getElem?_zipWith, List.getElem?_map, asked, value]
    simp only [Option.map_some]
    cases type : c.type with
    | rowNumber => exact absurd type noNumber
    | userName =>
      have name : levelled.raw.shownName = .text j.actor.name := by
        rw [SourceRow.raw_of_withLevels own]
        show (if j.actor.name != "" then Cell.text j.actor.name else .text "") = _
        split
        · rfl
        · rename_i empty
          rw [show j.actor.name = "" by simpa using empty]
      simp only [GroupedRow.finishCell, LabelledColumn.value, LabelledColumn.shown, Store.shown, type, name]
    | userGroups =>
      obtain ⟨ids, mem, groups⟩ := looked
      rw [id] at mem groups
      have cells : g.groups = (s.groupsOf j.actor.id).map .text := by
        rw [groups]
        show ((s.fetchGroups Database.groupChunk (ids.filterMap Cell.int?)).groupsOf j.actor.id).map Cell.text = _
        rw [Store.groupsOf_fetchGroups (List.mem_filterMap.2 ⟨_, mem, rfl⟩)]
      simp only [GroupedRow.finishCell, Store.shown, type, cells]
    | level moment =>
      have change := (shown_change keyed (plan ▸ planned) found own listed type).1
      cases moment <;>
        simp only [GroupedRow.finishCell, LabelledColumn.value, LabelledColumn.shown, Store.shown, type, change]
    | milestone counter =>
      rw [Column.expression?, type] at expressed
      dsimp only at expressed
      split at expressed <;> cases expressed
    | _ => simp [Column.expression?, type] at expressed

/-- What the columns of a report show: for each actor in it what they show for that actor. -/
theorem shown_of_compile {x : Service} (stored : x.database.store = some s) (keyed : s.WellKeyed)
    (columns : r.columns ≠ []) {bots : Option (List String)} {clock : List Float} {answer : Answer}
    (h : ((x.compile bots r).run clock).result = .ok answer) :
    ∃ ladder rows, ((x.resources.resolveLadder r).run clock).result = .ok ladder ∧ answer = .rows rows ∧
      ∀ row ∈ rows, ∃ a ∈ s.actors, row.id = .int a.id ∧ ∀ (i : Nat) (c : Column), r.columns[i]? = some c →
        c.type ≠ .rowNumber → row.values[i]? =
          some (s.shown (x.settings.naming r.wikiId).actorTable r.window ladder c a) := by
  obtain ⟨ladder, flagless, p, q, resolved, planned, built, answered⟩ := answer_of_compile h
  obtain ⟨rows, rfl, source⟩ := exists_lookedUp_of_mem_rows stored built columns answered
  refine ⟨ladder, rows, resolved, rfl, fun row listed => ?_⟩
  obtain ⟨j, matched, levelled, g, number, own, -, same, rfl, looked⟩ := source row listed
  have joined := (Query.mem_matching.1 matched).1
  refine ⟨j.actor, (keyed.eq_joinedRow_of_mem joined).2.1, ?_, fun i c asked noNumber => ?_⟩
  · rw [GroupedRow.finish, same, LevelledRow.report, SourceRow.raw_of_withLevels own]
    rfl
  · exact getElem?_values_shown keyed planned built joined own same looked number asked noNumber

/-- An answer of rows is the report of a request with columns. -/
lemma rows_of_compile {x : Service} (stored : x.database.store = some s) (keyed : s.WellKeyed)
    {bots : Option (List String)} {clock : List Float} {rows : List ActorRow}
    (h : ((x.compile bots r).run clock).result = .ok (.rows rows)) :
    ∃ ladder, ((x.resources.resolveLadder r).run clock).result = .ok ladder ∧ ∀ row ∈ rows, ∃ a ∈ s.actors,
      row.id = .int a.id ∧ ∀ (i : Nat) (c : Column), r.columns[i]? = some c → c.type ≠ .rowNumber →
        row.values[i]? = some (s.shown (x.settings.naming r.wikiId).actorTable r.window ladder c a) := by
  obtain ⟨_, _, _, _, -, -, -, answered⟩ := answer_of_compile h
  obtain ⟨ladder, _, resolved, same, shows⟩ := shown_of_compile stored keyed (columns_of_answer stored answered) h
  cases same
  exact ⟨ladder, resolved, shows⟩

/-- Two reports on the same window of one wiki show the same for an actor in columns of the same type with the
same parameter, wherever these stand and whatever else is asked for; a column of levels needs the same ladder
for that, and a column of numbers is left out. -/
theorem shown_alike {x : Service} (stored : x.database.store = some s) (keyed : s.WellKeyed) {r r' : Request}
    (wiki : r.wikiId = r'.wikiId) (window : r.window = r'.window) {bots bots' : Option (List String)}
    {clock clock' : List Float} {answer answer' : Answer}
    (h : ((x.compile bots r).run clock).result = .ok answer)
    (h' : ((x.compile bots' r').run clock').result = .ok answer') {i i' : Nat} {c c' : Column}
    (asked : r.columns[i]? = some c) (asked' : r'.columns[i']? = some c') (type : c.type = c'.type)
    (parameter : c.parameter = c'.parameter) (noNumber : c.type ≠ .rowNumber)
    (ladders : c.isLevel = true → ((x.resources.resolveLadder r).run clock).result =
      ((x.resources.resolveLadder r').run clock').result) :
    ∃ rows rows', answer = .rows rows ∧ answer' = .rows rows' ∧ ∀ row ∈ rows, ∀ row' ∈ rows', row.id = row'.id →
      ∃ cell, row.values[i]? = some cell ∧ row'.values[i']? = some cell := by
  have columns : ∀ {list : List Column} {i : Nat} {c : Column}, list[i]? = some c → list ≠ [] := by
    rintro _ i c found rfl
    cases found
  obtain ⟨ladder, rows, resolved, rfl, shows⟩ := shown_of_compile stored keyed (columns asked) h
  obtain ⟨ladder', rows', resolved', rfl, shows'⟩ := shown_of_compile stored keyed (columns asked') h'
  refine ⟨rows, rows', rfl, rfl, fun row listed row' listed' same => ?_⟩
  obtain ⟨a, known, id, cells⟩ := shows row listed
  obtain ⟨a', known', id', cells'⟩ := shows' row' listed'
  have actor : a = a' := by
    refine List.inj_on_of_nodup_map keyed.actors known known' ?_
    rw [id, id'] at same
    exact Cell.int.inj same
  subst actor
  refine ⟨_, cells i c asked noNumber, ?_⟩
  rw [cells' i' c' asked' (type ▸ noNumber), ← wiki, ← window, ← Store.shown_congr type parameter]
  cases level : c.isLevel with
  | true =>
    have same := ladders level
    rw [resolved, resolved'] at same
    rw [Except.ok.inj same]
  | false => rw [Store.shown_congr_ladder level]

end Service

/-- The edits since June 2023 of actors that have some, after their names; the first row in falling order. -/
def Json.ofFirstEditor : Json :=
  .object [("wikiId", .text "w"), ("columns", .list [.object [("type", .text "userName")],
      .object [("type", .text "editsInPeriod"), ("filterByRule", .text "moreThanZero")]]),
    ("orderBy", .list [.object [("columnId", .text "column1"), ("direction", .text "desc")]]),
    ("itemCount", .int 1), ("startDate", .text "2023-06-01"), ("endDate", .text "2023-12-31")]

/-- The first row of an answer in whole numbers is that of an actor. -/
lemma Answer.exists_of_wholes {rows : List ActorRow} {id : Int} {values : List (Option Int)}
    {rest : List (Option Int × List (Option Int))} (h : (Answer.rows rows).wholes = (some id, values) :: rest) :
    ∃ row ∈ rows, row.id = .int id := by
  obtain ⟨row, listed, same⟩ := List.mem_map.1 (h ▸ List.mem_cons_self : (some id, values) ∈ (Answer.rows rows).wholes)
  refine ⟨row, listed, ?_⟩
  have number : row.id.int? = some id := congrArg Prod.fst same
  cases cell : row.id <;> simp_all [Cell.int?]

/-- Two reports show the same edits of the first actor of the small store, one in its first column and one in its
second. -/
theorem Service.shown_alike_of_first_editor :
    ∃ r r' c c' rows rows', Payload.readRequest Json.ofCounters = .ok r ∧
      Payload.readRequest Json.ofFirstEditor = .ok r' ∧ Store.small.WellKeyed ∧ r.wikiId = r'.wikiId ∧
      r.window = r'.window ∧ r.columns[0]? = some c ∧ r'.columns[1]? = some c' ∧ c.type = c'.type ∧
      c.parameter = c'.parameter ∧ c.type ≠ .rowNumber ∧ c.isLevel = false ∧
      ((small.compile none r).run []).result = .ok (.rows rows) ∧
      ((small.compile none r').run []).result = .ok (.rows rows') ∧
      ∃ row ∈ rows, ∃ row' ∈ rows', row.id = row'.id ∧
        ∃ cell, row.values[0]? = some cell ∧ row'.values[1]? = some cell := by
  obtain ⟨r, r', parsed, parsed', succeeds, succeeds', wiki, window, c, c', asked, asked', type, parameter, noNumber,
      noLevel⟩ : ∃ r r', Payload.readRequest Json.ofCounters = .ok r ∧ Payload.readRequest Json.ofFirstEditor = .ok r' ∧
      (((small.compile none r).run []).result.toOption.any fun a => a.wholes == [(some 1, [some 1, none])]) = true ∧
      (((small.compile none r').run []).result.toOption.any fun a => a.wholes == [(some 1, [none, some 1])]) = true ∧
      r.wikiId = r'.wikiId ∧ r.window = r'.window ∧ ∃ c c', r.columns[0]? = some c ∧ r'.columns[1]? = some c' ∧
        c.type = c'.type ∧ c.parameter = c'.parameter ∧ c.type ≠ .rowNumber ∧ c.isLevel = false :=
    ⟨_, _, rfl, rfl, by decide +kernel, by decide +kernel, rfl, rfl, _, _, rfl, rfl, rfl, rfl, ColumnType.noConfusion,
      rfl⟩
  obtain ⟨answer, compiled, shown⟩ := exists_of_any succeeds
  obtain ⟨answer', compiled', shown'⟩ := exists_of_any succeeds'
  obtain ⟨rows, rows', rfl, rfl, alike⟩ := shown_alike rfl Store.wellKeyed_small wiki window compiled compiled' asked
    asked' type parameter noNumber fun level => absurd (noLevel.symm.trans level) Bool.false_ne_true
  obtain ⟨row, listed, id⟩ := Answer.exists_of_wholes (eq_of_beq shown)
  obtain ⟨row', listed', id'⟩ := Answer.exists_of_wholes (eq_of_beq shown')
  exact ⟨r, r', c, c', rows, rows', parsed, parsed', Store.wellKeyed_small, wiki, window, asked, asked', type,
    parameter, noNumber, noLevel, compiled, compiled', row, listed, row', listed', id.trans id'.symm,
    alike row listed row' listed' (id.trans id'.symm)⟩

end ActivityReport
