import ActivityReport.Proofs.Report.Columns
import ActivityReport.Proofs.Report.Listed

/-!
# Level columns and conditions on levels

Levels are worked out once for each snapshot that is planned, and three parts of a report look at them: the level
columns, the flag that tells of a change, and the conditions on levels. All three agree with the levels in the store
(`Store.levelChange`), and so with one another and from one window to the next (`Service.levels_of_compile`).
-/

namespace ActivityReport

open Number (fitsWord)

/-! ## What is shown and what is required -/

/-- The level columns of a row show the levels at the two ends of a window, and whether these differ. -/
structure ActorRow.ShowsLevels (row : ActorRow) (columns : List Column) (change : LevelChange) : Prop where
  start : ∀ (i : Nat) (c : Column), columns[i]? = some c → c.type = .level .start →
    row.values[i]? = some (change.start.shown [])
  finish : ∀ (i : Nat) (c : Column), columns[i]? = some c → c.type = .level .finish →
    row.values[i]? = some (change.finish.shown [])
  finishWithChange : ∀ (i : Nat) (c : Column), columns[i]? = some c → c.type = .level .finishWithChange →
    row.values[i]? = some (change.finish.shown [.bool (decide (change.start.id? ≠ change.finish.id?))])
  sortOrder : ∀ (i : Nat) (c : Column), columns[i]? = some c → c.type = .level .sortOrder →
    row.values[i]? = some (.float change.finish.shownSortOrder)

/-- Whether a level column shows what a condition on levels asks for: one of its levels at the last day, and the flag
if the level must have changed. -/
def Condition.IsShown (change : LevelChange) : Condition → Prop
  | level false ids => ∃ id ∈ ids, ∃ label, LevelMoment.finish.shown change = .list [.text id, .text label]
  | level true ids => ∃ id ∈ ids, ∃ label,
      LevelMoment.finishWithChange.shown change = .list [.text id, .text label, .bool true]
  | _ => True

/-- The level changed when its identifier is another one. -/
lemma LevelChange.changed_eq (change : LevelChange) :
    change.changed = decide (change.start.id? ≠ change.finish.id?) := by
  rw [changed, Bool.eq_iff_iff, bne_iff_ne, decide_eq_true_iff]

/-- A level shows its identifier and its label. -/
lemma Level.shown_eq_list_iff {level : Level} {id label : String} {more more' : List Cell} :
    level.shown more = .list ([.text id, .text label] ++ more') ↔
      more = more' ∧ ∃ rung, level.rung = some rung ∧ rung.id = id ∧ rung.label = label := by
  rw [shown]
  cases level.rung with
  | none => simp [Cell.ofOption]
  | some rung => simp [Cell.ofOption, and_comm, and_assoc]

/-- A condition on levels keeps a row exactly when a level column shows what it asks for. -/
lemma Condition.keeps_iff_isShown {c : Condition} {change : LevelChange} : c.keeps change = true ↔ c.IsShown change := by
  cases c with
  | level asked ids =>
    have has : change.finish.id?.any ids.contains = true ↔ ∃ id ∈ ids, ∃ label rung,
        change.finish.rung = some rung ∧ rung.id = id ∧ rung.label = label := by
      rw [Level.id?, Option.any_map, Option.any_eq_true]
      constructor
      · rintro ⟨rung, held, listed⟩
        exact ⟨rung.id, List.contains_iff_mem.1 listed, rung.label, rung, held, rfl, rfl⟩
      · rintro ⟨id, listed, label, rung, held, rfl, rfl⟩
        exact ⟨rung, held, List.contains_iff_mem.2 listed⟩
    rw [keeps, Bool.and_eq_true, has]
    cases asked with
    | false =>
      have shows : ∀ id label, LevelMoment.finish.shown change = .list [.text id, .text label] ↔
          ∃ rung, change.finish.rung = some rung ∧ rung.id = id ∧ rung.label = label :=
        fun id label => Level.shown_eq_list_iff.trans (and_iff_right rfl)
      simp [IsShown, shows]
    | true =>
      have shows : ∀ id label, LevelMoment.finishWithChange.shown change = .list [.text id, .text label, .bool true] ↔
          change.changed = true ∧ ∃ rung, change.finish.rung = some rung ∧ rung.id = id ∧ rung.label = label :=
        fun id label => Level.shown_eq_list_iff.trans (and_congr_left' (by simp))
      simp only [IsShown, shows, Bool.not_true, Bool.false_or]
      grind
  | _ => simp [keeps, IsShown]

/-! ## Levels in the store -/

namespace Store

variable {s : Store} {ladder : Option Ladder} {actorId : Int}

/-- The total of a counter in the latest row of a key; without a row it is 0. -/
def total (s : Store) (k : SnapshotKey) (counter : Counter) (actorId : Int) : Int :=
  (s.latestRow? k actorId).elim 0 fun row => row.toDate counter + row.daily counter

/-- A total that fits a word is exact. -/
lemma cut_amount {k : SnapshotKey} {counter : Counter} (fits : fitsWord (s.total k counter actorId) = true) :
    (s.amount k counter actorId).cut = s.total k counter actorId := by
  rw [amount, total] at *
  cases latest : s.latestRow? k actorId with
  | none => rfl
  | some row =>
    rw [latest, Option.elim_some] at fits
    show (Amount.add (.whole (row.toDate counter)) (.whole (row.daily counter))).cut = _
    rw [Amount.add_whole fits]
    rfl

/-- Where the totals fit a word, a level is that of the edits and log events together and of the active days. -/
lemma level_eq {l : LevelSnapshot}
    (fits : ∀ counter ∈ LevelSnapshot.counters, fitsWord (s.total l.key counter actorId) = true) :
    s.level ladder l actorId = (ladder.getD []).level (s.total l.key .edits actorId + s.total l.key .logEvents actorId)
      (s.total l.key .activeDays actorId) := by
  rw [level, cut_amount (fits _ (by decide)), cut_amount (fits _ (by decide)), cut_amount (fits _ (by decide))]

/-- The level before a day is the level at the end of the day before. -/
lemma level_before_next {cut next : Date} (follows : cut.addDays? 1 = some next) :
    s.level ladder ⟨.before, next⟩ actorId = s.level ladder ⟨.finish, cut⟩ actorId := by
  have amount : ∀ counter, s.amount (LevelSnapshot.key ⟨.before, next⟩) counter actorId =
      s.amount (LevelSnapshot.key ⟨.finish, cut⟩) counter actorId := by
    intro counter
    rw [Store.amount, Store.amount, LevelSnapshot.key, LevelSnapshot.key, latestRow?_before_next follows]
  rw [level, level, amount, amount, amount]

/-- The level that a window starts with is the one that a window up to the day before ends with. -/
lemma start_levelChange {w w' : Window} {first : Date} (start : w.start = some first)
    (follows : w'.finish.addDays? 1 = some first) :
    (s.levelChange w ladder actorId).start = (s.levelChange w' ladder actorId).finish := by
  rw [levelChange, levelChange, LevelSnapshot.atStart?, start]
  exact level_before_next follows

/-- What a level column shows. -/
lemma shown_level {actorTable : String} {w : Window} {c : Column} {moment : LevelMoment} {a : Actor}
    (type : c.type = .level moment) :
    s.shown actorTable w ladder c a = moment.shown (s.levelChange w ladder a.id) := by
  rw [shown, type]

end Store

/-! ## Levels of a report -/

namespace Service

variable {s : Store} {r : Request} {q : Query} {ladder : Option Ladder} {n : Naming} {j : JoinedRow}
  {levelled : LevelledRow}

/-- A condition on levels looks at the levels in the store. -/
lemma keeps_change (keyed : s.WellKeyed) (planned : JoinPlan.ofRequest r = .ok q.plan)
    (found : j ∈ s.joined n.actorTable q.plan)
    (own : (RawRow.ofJoined q j).source.withLevels ladder q.plan.levels = .ok levelled) {c : Condition}
    (asked : c ∈ r.conditions) :
    c.keeps (levelled.change r.window) = c.keeps (s.levelChange r.window ladder j.actor.id) := by
  cases c with
  | level changed ids =>
    have planned' := (JoinPlan.mem_of_condition planned asked rfl).2
    have finish : (levelled.change r.window).finish = (s.levelChange r.window ladder j.actor.id).finish :=
      levelAt_eq keyed planned found own (planned' _ List.mem_cons_self).1
    cases changed with
    | false => rw [Condition.keeps, Condition.keeps, finish, Bool.not_false, Bool.true_or, Bool.true_or]
    | true =>
      have start : (levelled.change r.window).start = (s.levelChange r.window ladder j.actor.id).start := by
        rw [LevelledRow.change, Store.levelChange]
        cases atStart : LevelSnapshot.atStart? r.window with
        | none => rfl
        | some l =>
          refine levelAt_eq keyed planned found own (planned' l (List.mem_cons_of_mem _ ?_)).1
          rw [if_pos rfl, Window.needLevelBefore, atStart]
          exact List.mem_singleton_self _
      rw [Condition.keeps, Condition.keeps, LevelChange.changed, LevelChange.changed, finish, start]
  | _ => rfl

/-- A matching row is kept for its levels exactly when the level columns show what all conditions ask for. -/
lemma keepsLevels_iff_isShown (keyed : s.WellKeyed) (planned : JoinPlan.ofRequest r = .ok q.plan)
    (found : j ∈ s.joined n.actorTable q.plan)
    (own : (RawRow.ofJoined q j).source.withLevels ladder q.plan.levels = .ok levelled) :
    j.keepsLevels r q ladder = true ↔
      ∀ c ∈ r.conditions, c.IsShown (s.levelChange r.window ladder j.actor.id) := by
  rw [JoinedRow.keepsLevels, own]
  show r.keepsLevels levelled = true ↔ _
  rw [Request.keepsLevels, List.all_eq_true]
  refine forall_congr' fun c => forall_congr' fun asked => ?_
  rw [keeps_change keyed planned found own asked, Condition.keeps_iff_isShown]

/-- The level columns of a report show the levels in the store. -/
lemma showsLevels_of_compile {x : Service} (stored : x.database.store = some s) (keyed : s.WellKeyed)
    {bots : Option (List String)} {clock : List Float} {rows : List ActorRow}
    (h : ((x.compile bots r).run clock).result = .ok (.rows rows)) :
    ∃ ladder, ((x.resources.resolveLadder r).run clock).result = .ok ladder ∧ ∀ row ∈ rows, ∃ a ∈ s.actors,
      row.id = .int a.id ∧ row.ShowsLevels r.columns (s.levelChange r.window ladder a.id) := by
  obtain ⟨ladder, resolved, shows⟩ := rows_of_compile stored keyed h
  refine ⟨ladder, resolved, fun row listed => ?_⟩
  obtain ⟨a, known, id, cells⟩ := shows row listed
  have level : ∀ (i : Nat) (c : Column) (moment : LevelMoment), r.columns[i]? = some c → c.type = .level moment →
      row.values[i]? = some (moment.shown (s.levelChange r.window ladder a.id)) := by
    intro i c moment asked type
    rw [cells i c asked (by rw [type]; exact ColumnType.noConfusion), Store.shown_level type]
  refine ⟨a, known, id, fun i c => level i c .start, fun i c => level i c .finish, fun i c asked type => ?_,
    fun i c => level i c .sortOrder⟩
  rw [level i c .finishWithChange asked type, LevelMoment.shown, LevelChange.changed_eq]

/-- Levels in a report from a store without double keys, under the ladder that is resolved for it. Each level column
shows the level of its actor at its end of the window, or whether the two differ. A matching row passes a condition on
levels exactly when the column of the last day, or the one with the flag, would show what the condition asks for; who is
listed passes all of them, and who passes all of them is listed unless rows are cut off. What the column of the first
day shows the column of the last day shows in a report that ends the day before. The levels are those of the totals in
the latest row before or up to the day, read as 0 without a row. -/
theorem levels_of_compile {x : Service} (stored : x.database.store = some s) (keyed : s.WellKeyed)
    {bots : Option (List String)} {clock : List Float} {answer : Answer}
    (h : ((x.compile bots r).run clock).result = .ok answer) :
    ∃ ladder q, ((x.resources.resolveLadder r).run clock).result = .ok ladder ∧ Query.ofRequest r = .ok q ∧
      (∀ rows, answer = .rows rows → ∀ row ∈ rows, ∃ a ∈ s.actors, row.id = .int a.id ∧
        row.ShowsLevels r.columns (s.levelChange r.window ladder a.id)) ∧
      (∀ j ∈ q.matching s (x.settings.naming r.wikiId).actorTable, ∃ row,
        (RawRow.ofJoined q j).source.withLevels ladder q.plan.levels = .ok row ∧ ∀ c ∈ r.conditions,
          (c.keeps (row.change r.window) = true ↔ c.IsShown (s.levelChange r.window ladder j.actor.id))) ∧
      (∀ id ∈ answer.actorIds, ∃ j ∈ q.matching s (x.settings.naming r.wikiId).actorTable, j.actor.id = id ∧
        ∀ c ∈ r.conditions, c.IsShown (s.levelChange r.window ladder id)) ∧
      (r.columns = [] ∨ r.itemCount.filter (0 < ·) = none →
        ∀ j ∈ q.matching s (x.settings.naming r.wikiId).actorTable,
          (∀ c ∈ r.conditions, c.IsShown (s.levelChange r.window ladder j.actor.id)) → j.actor.id ∈ answer.actorIds) ∧
      (∀ rows, answer = .rows rows → ∀ (r' : Request) (bots' : Option (List String)) (clock' : List Float) rows',
        ((x.compile bots' r').run clock').result = .ok (.rows rows') →
        ((x.resources.resolveLadder r').run clock').result = .ok ladder →
        ∀ first, r.window.start = some first → r'.window.finish.addDays? 1 = some first →
        ∀ row ∈ rows, ∀ row' ∈ rows', row.id = row'.id → ∀ (i i' : Nat) (c c' : Column),
          r.columns[i]? = some c → r'.columns[i']? = some c' → c.type = .level .start → c'.type = .level .finish →
          ∃ cell, row.values[i]? = some cell ∧ row'.values[i']? = some cell) ∧
      ∀ (l : LevelSnapshot) (actorId : Int),
        (∀ counter ∈ LevelSnapshot.counters, fitsWord (s.total l.key counter actorId) = true) →
        s.level ladder l actorId = (ladder.getD []).level
          (s.total l.key .edits actorId + s.total l.key .logEvents actorId) (s.total l.key .activeDays actorId) := by
  obtain ⟨ladder, flagless, p, q, resolved, planned, built, answered⟩ := answer_of_compile h
  obtain rfl := Query.plan_of_ofPlan built
  obtain ⟨listing, levelled⟩ := actorIds_of_answer stored planned answered
  have isQuery : Query.ofRequest r = .ok q := by
    rw [Query.ofRequest, planned]
    exact built
  have passes : ∀ j ∈ q.matching s (x.settings.naming r.wikiId).actorTable, j.keepsLevels r q ladder = true ↔
      ∀ c ∈ r.conditions, c.IsShown (s.levelChange r.window ladder j.actor.id) := by
    intro j matched
    obtain ⟨row, own⟩ := levelled j matched
    exact keepsLevels_iff_isShown keyed planned (Query.mem_matching.1 matched).1 own
  refine ⟨ladder, q, resolved, isQuery, ?_, fun j matched => ?_, fun id found => ?_, fun noLimit j matched all => ?_, ?_,
    fun l actorId => Store.level_eq⟩
  -- what the columns show
  · rintro rows rfl
    obtain ⟨ladder', resolved', shows⟩ := showsLevels_of_compile stored keyed h
    obtain rfl := Except.ok.inj (resolved'.symm.trans resolved)
    exact shows
  -- who passes, and who is listed
  · obtain ⟨row, own⟩ := levelled j matched
    refine ⟨row, own, fun c asked => ?_⟩
    rw [keeps_change keyed planned (Query.mem_matching.1 matched).1 own asked, Condition.keeps_iff_isShown]
  · obtain ⟨j, kept, rfl⟩ := List.mem_map.1 (listing.subset found)
    obtain ⟨matched, keeps⟩ := List.mem_filter.1 kept
    exact ⟨j, matched, rfl, (passes j matched).1 keeps⟩
  · refine (listing.perm ?_).mem_iff.2 (List.mem_map_of_mem (List.mem_filter.2 ⟨matched, (passes j matched).2 all⟩))
    rcases noLimit with none | none
    · exact if_pos none
    · rw [none, ite_self]
  -- the day before
  · rintro rows rfl r' bots' clock' rows' h' same first start follows row listed row' listed' id i i' c c' asked asked'
      type type'
    obtain ⟨ladder₁, resolved₁, shows⟩ := showsLevels_of_compile stored keyed h
    obtain ⟨ladder₂, resolved₂, shows'⟩ := showsLevels_of_compile stored keyed h'
    obtain rfl := Except.ok.inj (resolved₁.symm.trans resolved)
    obtain rfl := Except.ok.inj (resolved₂.symm.trans same)
    obtain ⟨a, known, isA, levels⟩ := shows row listed
    obtain ⟨a', known', isA', levels'⟩ := shows' row' listed'
    obtain rfl : a' = a :=
      List.inj_on_of_nodup_map keyed.actors known' known (Cell.int.inj (isA'.symm.trans (id.symm.trans isA)))
    refine ⟨_, levels.start i c asked type, ?_⟩
    rw [Store.start_levelChange start follows]
    exact levels'.finish i' c' asked' type'

end Service

/-- The levels of an actor who has gone up from bronze to silver, asked for of actors with four edits at most. -/
def Json.ofLevels : Json :=
  .object [("wikiId", .text "w"), ("columns", .list [.object [("type", .text "levelAtPeriodStart")],
      .object [("type", .text "levelAtPeriodEndWithChange")]]),
    ("requirements", .object [("totalEditsAtMost", .int 4), ("hasLevelAndChanged", .list [.text "silver"])]),
    ("startDate", .text "2023-06-01"), ("endDate", .text "2023-12-31"),
    ("serviceAwardLevels", .list [
      .object [("id", .text "bronze"), ("label", .text "Bronze"), ("requiredContributions", .int 1),
        ("requiredActiveDays", .int 1)],
      .object [("id", .text "silver"), ("label", .text "Silver"), ("requiredContributions", .int 5),
        ("requiredActiveDays", .int 2)]])]

/-- The one row of the report on these levels shows the levels in the store, and the condition is shown to be met. -/
theorem Service.levels_of_small :
    ∃ r rows, Payload.readRequest Json.ofLevels = .ok r ∧ Store.small.WellKeyed ∧
      ((small.compile none r).run []).result = .ok (.rows rows) ∧ (Answer.rows rows).actorIds = [1] ∧
      (∀ row ∈ rows, ∃ a ∈ Store.small.actors, row.id = .int a.id ∧
        row.ShowsLevels r.columns (Store.small.levelChange r.window r.ladder a.id)) ∧
      ∀ c ∈ r.conditions, c.IsShown (Store.small.levelChange r.window r.ladder 1) := by
  obtain ⟨r, parsed, columns, succeeds, ladder⟩ : ∃ r, Payload.readRequest Json.ofLevels = .ok r ∧
      r.columns.length = 2 ∧
      (((small.compile none r).run []).result.toOption.any fun a =>
        a.actorIds == [1] && a.wholes.length == 1) = true ∧
      ((small.resources.resolveLadder r).run []).result = .ok r.ladder :=
    ⟨_, rfl, rfl, by decide +kernel, rfl⟩
  obtain ⟨answer, compiled, one⟩ := exists_of_any succeeds
  obtain ⟨listed, isReport⟩ := Bool.and_eq_true_iff.1 one
  replace listed := eq_of_beq listed
  obtain ⟨ladder', q, resolved, built, shows, -, passes, -⟩ := levels_of_compile rfl Store.wellKeyed_small compiled
  obtain rfl : r.ladder = ladder' := Except.ok.inj (ladder.symm.trans resolved)
  cases answer with
  | rows rows =>
    refine ⟨r, rows, parsed, Store.wellKeyed_small, compiled, listed, shows rows rfl, ?_⟩
    obtain ⟨j, -, -, all⟩ := passes 1 (by rw [listed]; exact List.mem_singleton_self _)
    exact all
  | ids list => cases isReport

end ActivityReport
