import ActivityReport.Proofs.Report.Conditions

/-!
# Positive columns

A column that asks for more than zero keeps the actors whose value in the query is positive. What the column shows is
made of that value, so a column of numbers shows a number above zero and a column of days shows a day
(`Service.positive_of_compile`), with the exceptions that the forms of values make: the days that stand for "never"
are shown as nothing, and a sort order is worked out after the query.
-/

namespace ActivityReport

/-- Whether a value is a number above zero. -/
def Cell.IsAboveZero (c : Cell) : Prop := ∃ x : Number.Numeral, c = .ofNumber x ∧ x.compare (.whole 0) = .gt

/-- Whether a type has numbers for values, other than the one that is worked out after the query. -/
def ColumnType.IsMeasured (type : ColumnType) : Prop :=
  (type.valueType = .integer ∨ type.valueType = .float) ∧ type ≠ .level .sortOrder

/-- The day that a column of days has for an actor; among several filters of log events those without events do not
count. -/
def Store.dayOf? (s : Store) (w : Window) (c : Column) (a : Actor) : Option Date :=
  match c.type with
  | .registrationDate => a.registration
  | .activityDate activity edge => (s.range? ⟨.activity activity, w.finish⟩ a.id).map edge.pick
  | .logDate edge =>
    edge.ofDays? (c.logFilters.filterMap fun f => (s.range? ⟨.logFilter f, w.finish⟩ a.id).map edge.pick)
  | _ => none

namespace Edge

variable {edge : Edge} {day : Date}

/-- Whether a day lies on the side of an edge of another one, or is that day. -/
def Leads (edge : Edge) (day other : Date) : Prop :=
  match edge with
  | .first => day ≤ other
  | .last => other ≤ day

/-- The first or the last of some days is the one among them that leads them all. -/
lemma ofDays?_eq_some_iff {days : List Date} :
    edge.ofDays? days = some day ↔ day ∈ days ∧ ∀ d ∈ days, edge.Leads day d := by
  constructor
  · intro h
    obtain ⟨⟨first, last⟩, range, rfl⟩ := Option.map_eq_some_iff.1 h
    obtain ⟨low, high⟩ := dayRange?_eq_some range
    cases edge with
    | first => exact low
    | last => exact high
  · rintro ⟨own, leads⟩
    cases range : dayRange? days with
    | none =>
      rw [dayRange?_eq_none_iff.1 range] at own
      cases own
    | some ends =>
      obtain ⟨first, last⟩ := ends
      obtain ⟨⟨firstIn, low⟩, lastIn, high⟩ := dayRange?_eq_some range
      rw [ofDays?, range, Option.map_some]
      cases edge with
      | first => exact congrArg some (Date.le_antisymm (low day own) (leads first firstIn))
      | last => exact congrArg some (Date.le_antisymm (leads last lastIn) (high day own))

/-- A day between those that stand for "never" stays the first or the last one when these take the place of missing
ones. -/
lemma ofDays?_getD_never {found : List (Option Date)} (own : edge.ofDays? (found.filterMap id) = some day)
    (early : Date.neverBefore < day) (late : day < Date.neverAfter) :
    edge.ofDays? (found.map (·.getD edge.never)) = some day := by
  obtain ⟨listed, leads⟩ := ofDays?_eq_some_iff.1 own
  refine ofDays?_eq_some_iff.2 ⟨List.mem_map.2 ⟨some day, ?_, rfl⟩, fun d shown => ?_⟩
  · obtain ⟨_, mem, rfl⟩ := List.mem_filterMap.1 listed
    exact mem
  · obtain ⟨other, mem, rfl⟩ := List.mem_map.1 shown
    cases other with
    | none =>
      cases edge with
      | first => exact Nat.le_of_lt late
      | last => exact Nat.le_of_lt early
    | some d => exact leads d (List.mem_filterMap.2 ⟨some d, mem, rfl⟩)

end Edge

variable {s : Store} {actorTable : String} {w : Window} {ladder : Option Ladder} {c : Column} {a : Actor}

/-- A number that counts as positive is above zero, and is shown as it is. -/
lemma Cell.toNumeric_isAboveZero {x : Number.Numeral} (positive : (Cell.ofNumber x).isPositive = true) :
    (Cell.ofNumber x).toNumeric.IsAboveZero := by
  cases x with
  | whole n => exact ⟨.whole n, rfl, Int.compare_eq_gt.2 (of_decide_eq_true positive)⟩
  | real x => exact ⟨.real x, rfl, eq_of_beq positive⟩

/-- A number above zero counts as positive. -/
lemma Cell.IsAboveZero.isPositive {cell : Cell} (h : cell.IsAboveZero) : cell.isPositive = true := by
  obtain ⟨x, rfl, above⟩ := h
  cases x with
  | whole n => exact decide_eq_true (Int.compare_eq_gt.1 above)
  | real x => exact beq_iff_eq.2 above

/-- The value of a measured column is nothing or a number. -/
lemma Column.exists_expression_of_isMeasured (w : Window) (measured : c.type.IsMeasured) :
    ∃ e, c.expression? w = some e ∧ ∀ j : JoinedRow, e.eval j = .null ∨ ∃ x, e.eval j = .ofNumber x := by
  obtain ⟨numeric, notLevel⟩ := measured
  have share : ∀ m n : Sum, ∀ j : JoinedRow, (Expression.share m n).eval j = .null ∨
      ∃ x, (Expression.share m n).eval j = .ofNumber x := by
    intro m n j
    rw [Expression.eval]
    cases Amount.share? (m.eval j) (n.eval j) with
    | none => exact Or.inl rfl
    | some x => exact Or.inr ⟨.real x, rfl⟩
  have whole : ∀ {α : Type} (f : α → Int) (found : Option α), Cell.ofOption (fun y => .int (f y)) found = .null ∨
      ∃ x, Cell.ofOption (fun y => .int (f y)) found = .ofNumber x := by
    intro α f found
    cases found with
    | none => exact Or.inl rfl
    | some y => exact Or.inr ⟨.whole (f y), rfl⟩
  unfold expression?
  cases type : c.type with
  | count counter span ratio form =>
    refine ⟨_, rfl, fun j => ?_⟩
    cases ratio with
    | none => exact Or.inr ⟨_, rfl⟩
    | wikiTotal => exact share _ _ j
    | ownTotalEdits => exact share _ _ j
  | activityDays => exact ⟨_, rfl, fun j => whole _ _⟩
  | daysSinceRegistration => exact ⟨_, rfl, fun j => whole _ _⟩
  | averagePerDay => exact ⟨_, rfl, share _ _⟩
  | milestone =>
    dsimp only
    split
    · exact ⟨_, rfl, fun j => Or.inl rfl⟩
    · exact ⟨_, rfl, fun j => whole (fun n => n) _⟩
  | level moment =>
    rw [type] at numeric notLevel
    cases moment <;> simp [ColumnType.valueType] at numeric notLevel
  | _ =>
    rw [type] at numeric
    simp [ColumnType.valueType] at numeric

namespace Store

/-- Whoever passes the filter of a measured column is shown with a number above zero. -/
lemma shown_isAboveZero (measured : c.type.IsMeasured) (filtered : c.moreThanZero = true)
    (passes : s.Passes actorTable w c a) : (s.shown actorTable w ladder c a).IsAboveZero := by
  obtain ⟨e, expressed, values⟩ := Column.exists_expression_of_isMeasured w measured
  have positive := passes filtered e expressed
  have numeric : ∀ cell, c.type.valueType.normalize cell = cell.toNumeric := by
    intro cell
    rcases measured.1 with integer | float
    · rw [integer]
      rfl
    · rw [float]
      rfl
  rw [shown_of_expression expressed, numeric]
  rcases values (s.joinedRow actorTable (.ofNeeds (c.needs w)) a) with none | ⟨x, value⟩
  · rw [none] at positive
    cases positive
  · rw [value] at positive ⊢
    exact Cell.toNumeric_isAboveZero positive

/-- A column of days of log events shows the first or the last of the days of its filters, among which one that stands
for "never" takes the place of a missing one, unless it is such a day itself. -/
lemma shown_logDate_eq {edge : Edge} (type : c.type = .logDate edge) :
    s.shown actorTable w ladder c a = .ofOption .date ((edge.ofDays? (c.logFilters.map fun f =>
      ((s.range? ⟨.logFilter f, w.finish⟩ a.id).map edge.pick).getD edge.never)).filter fun d => !d.isNever) := by
  have expressed : c.expression? w = some (.filterDay (c.logFilters.map fun f => ⟨.logFilter f, w.finish⟩) edge) := by
    rw [Column.expression?, type]
  have needed : ∀ f ∈ c.logFilters, .range ⟨.logFilter f, w.finish⟩ ∈ c.needs w := by
    intro f asked
    rw [Column.needs, type]
    exact List.mem_map.2 ⟨f, asked, rfl⟩
  have found : ∀ f ∈ c.logFilters, (s.joinedRow actorTable (.ofNeeds (c.needs w)) a).range? ⟨.logFilter f, w.finish⟩ =
      s.range? ⟨.logFilter f, w.finish⟩ a.id :=
    fun f asked => range?_joinedRow (JoinPlan.mem_ranges_ofNeeds.2 (needed f asked))
  have valued : c.type.valueType = .date := by
    rw [type]
    rfl
  rw [shown_of_expression expressed, valued, Expression.eval, List.map_map, List.map_congr_left fun f asked => ?_]
  · generalize edge.ofDays? _ = day
    cases day <;> rfl
  · rw [Function.comp_apply, found f asked]

/-- Whoever has log events is shown with the first or the last day of them, if it lies between the days that stand for
"never". -/
lemma shown_logDate {edge : Edge} (type : c.type = .logDate edge) {day : Date} (own : s.dayOf? w c a = some day)
    (early : Date.neverBefore < day) (late : day < Date.neverAfter) : s.shown actorTable w ladder c a = .date day := by
  have chosen : edge.ofDays? (c.logFilters.map fun f =>
      ((s.range? ⟨.logFilter f, w.finish⟩ a.id).map edge.pick).getD edge.never) = some day := by
    rw [dayOf?, type] at own
    have days : edge.ofDays? ((c.logFilters.map fun f =>
        (s.range? ⟨.logFilter f, w.finish⟩ a.id).map edge.pick).filterMap id) = some day := by
      rw [List.filterMap_map]
      exact own
    have shown := Edge.ofDays?_getD_never days early late
    rw [List.map_map] at shown
    exact shown
  have known : day.isNever = false := by
    rw [Date.isNever, Bool.or_eq_false_iff, beq_eq_false_iff_ne, beq_eq_false_iff_ne]
    exact ⟨fun same => Nat.lt_irrefl _ (same ▸ early), fun same => Nat.lt_irrefl _ (same ▸ late)⟩
  rw [shown_logDate_eq type, chosen, Option.filter_some, known]
  rfl

/-- Whoever passes the filter of a column of one day has such a day, and is shown with it unless it stands for
"never". -/
lemma shown_day (ladder : Option Ladder) (date : c.type.valueType = .date) (own : ∀ edge, c.type ≠ .logDate edge)
    (filtered : c.moreThanZero = true) (passes : s.Passes actorTable w c a) :
    ∃ day, s.dayOf? w c a = some day ∧
      s.shown actorTable w ladder c a = if day.isNever then .null else .date day := by
  obtain ⟨e, expressed, value⟩ : ∃ e, c.expression? w = some e ∧
      e.eval (s.joinedRow actorTable (.ofNeeds (c.needs w)) a) = .ofOption .date (s.dayOf? w c a) := by
    unfold dayOf? Column.expression?
    cases type : c.type with
    | registrationDate => exact ⟨_, rfl, rfl⟩
    | activityDate activity edge =>
      have needed : .range ⟨.activity activity, w.finish⟩ ∈ c.needs w := by
        rw [Column.needs, type]
        exact List.mem_singleton_self _
      refine ⟨_, rfl, ?_⟩
      rw [Expression.eval, range?_joinedRow (JoinPlan.mem_ranges_ofNeeds.2 needed)]
    | logDate edge => exact absurd type (own edge)
    | count counter span ratio form =>
      rw [type] at date
      cases ratio <;> cases date
    | level moment =>
      rw [type] at date
      cases moment <;> cases date
    | _ =>
      rw [type] at date
      cases date
  have positive := passes filtered e expressed
  rw [value] at positive
  cases found : s.dayOf? w c a with
  | none =>
    rw [found] at positive
    cases positive
  | some day =>
    refine ⟨day, rfl, ?_⟩
    rw [shown_of_expression expressed, value, found, date]
    show Cell.ofOption .date ((some day).filter fun d => !d.isNever) = _
    rw [Option.filter_some]
    cases day.isNever <;> rfl

end Store

namespace Service

variable {x : Service} {r : Request}

/-- In each row of a report each column that asks for more than zero shows a number above zero if its values are
numbers that the query works out. A column of days that does not choose among filters shows a day that its actor has;
a day that stands for "never" is shown as nothing. One that chooses among filters shows the first or the last day of
their events, if there are any and the day lies between those two. -/
theorem positive_of_compile (stored : x.database.store = some s) (keyed : s.WellKeyed) {bots : Option (List String)}
    {clock : List Float} {rows : List ActorRow} (h : ((x.compile bots r).run clock).result = .ok (.rows rows)) :
    ∀ row ∈ rows, ∃ a ∈ s.actors, row.id = .int a.id ∧ ∀ (i : Nat) (c : Column), r.columns[i]? = some c →
      c.moreThanZero = true →
        (c.type.IsMeasured → ∃ cell, row.values[i]? = some cell ∧ cell.IsAboveZero) ∧
        (c.type.valueType = .date → (∀ edge, c.type ≠ .logDate edge) → ∃ day, s.dayOf? r.window c a = some day ∧
          row.values[i]? = some (if day.isNever then .null else .date day)) ∧
        (∀ edge, c.type = .logDate edge → ∀ day, s.dayOf? r.window c a = some day → Date.neverBefore < day →
          day < Date.neverAfter → row.values[i]? = some (.date day)) := by
  obtain ⟨ladder, -, shows⟩ := rows_of_compile stored keyed h
  intro row own
  obtain ⟨a, known, id, cells⟩ := shows row own
  have listed : a.id ∈ (Answer.rows rows).actorIds := List.mem_filterMap.2 ⟨row, own, by rw [id]; rfl⟩
  obtain ⟨a', known', same, passes⟩ := passes_of_compile stored keyed h listed
  obtain rfl : a' = a := List.inj_on_of_nodup_map keyed.actors known' known same
  refine ⟨a', known, id, fun i c asked filtered => ⟨fun measured => ?_, fun date noFilters => ?_,
    fun edge type day found early late => ?_⟩⟩
  · have noNumber : c.type ≠ .rowNumber := by
      intro type
      obtain ⟨integer | float, -⟩ := measured
      · rw [type] at integer
        cases integer
      · rw [type] at float
        cases float
    exact ⟨_, cells i c asked noNumber,
      Store.shown_isAboveZero measured filtered (passes c (List.mem_of_getElem? asked))⟩
  · have noNumber : c.type ≠ .rowNumber := by
      intro type
      rw [type] at date
      cases date
    obtain ⟨day, found, shown⟩ :=
      Store.shown_day ladder date noFilters filtered (passes c (List.mem_of_getElem? asked))
    exact ⟨day, found, (cells i c asked noNumber).trans (congrArg some shown)⟩
  · rw [cells i c asked (by rw [type]; exact ColumnType.noConfusion), Store.shown_logDate type found early late]

end Service

/-! ### An actor and a day -/

/-- A store of one actor, who registered on a day and was active on another. -/
def Store.ofRegistration (day : Date) : Store where
  actors := [⟨1, "A", true, some day⟩]
  counters := [.uniform (some 1) Date.mayFifth 2 0]
  groups := []
  templates := []

lemma Store.wellKeyed_ofRegistration (day : Date) : (ofRegistration day).WellKeyed :=
  ⟨List.nodup_singleton _, List.nodup_singleton _, List.nodup_nil, List.nodup_nil⟩

/-- The service of that store. -/
def Service.ofRegistration (day : Date) : Service := { small with database := ⟨"w", some (Store.ofRegistration day)⟩ }

/-- What the rows of an answer show. -/
def Answer.values : Answer → List (List Cell)
  | rows list => list.map ActorRow.values
  | ids _ => []

/-- A payload of a request for columns that ask for more than zero, under a ladder without rungs. -/
def Json.ofPositive (types : List String) : Json :=
  .object [("wikiId", .text "w"), ("columns", .list (types.map fun type =>
      .object [("type", .text type), ("filterByRule", .text "moreThanZero")])), ("endDate", .text "2023-12-31"),
    ("serviceAwardLevels", .list [])]

namespace Service

/-- The edits and the day of registration of an actor who has both. -/
theorem positive_of_mayFifth :
    ∃ r c d rows, Payload.readRequest (.ofPositive ["editsSinceRegistration", "registrationDate"]) = .ok r ∧
      r.columns = [c, d] ∧ c.type.IsMeasured ∧ d.type = .registrationDate ∧ c.moreThanZero = true ∧
      d.moreThanZero = true ∧ (((ofRegistration Date.mayFifth).compile none r).run []).result = .ok (.rows rows) ∧
      rows.length = 1 ∧ ∀ row ∈ rows, (∃ cell, row.values[0]? = some cell ∧ cell.IsAboveZero) ∧
        row.values[1]? = some (.date Date.mayFifth) := by
  obtain ⟨r, c, d, parsed, columns, typeC, typeD, filteredC, filteredD, succeeds⟩ : ∃ r c d,
      Payload.readRequest (.ofPositive ["editsSinceRegistration", "registrationDate"]) = .ok r ∧ r.columns = [c, d] ∧
      c.type = .count .edits .sinceRegistration .none .whole ∧ d.type = .registrationDate ∧ c.moreThanZero = true ∧
      d.moreThanZero = true ∧
      ((((ofRegistration Date.mayFifth).compile none r).run []).result.toOption.any fun a => a.size == 1) = true :=
    ⟨_, _, _, rfl, rfl, rfl, rfl, rfl, rfl, by decide +kernel⟩
  have measured : c.type.IsMeasured := by
    rw [typeC]
    exact ⟨Or.inl rfl, ColumnType.noConfusion⟩
  obtain ⟨answer, compiled, one⟩ := exists_of_any succeeds
  obtain ⟨_, rows, -, rfl, -⟩ := shown_of_compile (x := ofRegistration Date.mayFifth) rfl
    (Store.wellKeyed_ofRegistration _) (by rw [columns]; exact List.cons_ne_nil _ _) compiled
  have positive :=
    positive_of_compile (x := ofRegistration Date.mayFifth) rfl (Store.wellKeyed_ofRegistration _) compiled
  refine ⟨r, c, d, rows, parsed, columns, measured, typeD, filteredC, filteredD, compiled, eq_of_beq one,
    fun row own => ?_⟩
  obtain ⟨a, known, -, shows⟩ := positive row own
  obtain rfl := List.mem_singleton.1 known
  obtain ⟨-, days, -⟩ := shows 1 d (by rw [columns]; rfl) filteredD
  obtain ⟨day, found, shown⟩ := days (by rw [typeD]; rfl) fun edge => by rw [typeD]; exact ColumnType.noConfusion
  rw [Store.dayOf?, typeD] at found
  cases found
  exact ⟨(shows 0 c (by rw [columns]; rfl) filteredC).1 measured, shown⟩

/-- An actor who registered on the first of January 1900 is shown without a day and with a sort order of zero. -/
theorem positive_fails_of_never :
    ∃ r c d row, Payload.readRequest (.ofPositive ["registrationDate", "levelSortOrder"]) = .ok r ∧ r.columns = [c, d] ∧
      c.type.valueType = .date ∧ d.type.valueType = .float ∧ c.moreThanZero = true ∧ d.moreThanZero = true ∧
      (((ofRegistration Date.neverBefore).compile none r).run []).result = .ok (.rows [row]) ∧
      row.values[0]? = some .null ∧ ∃ cell, row.values[1]? = some cell ∧ ¬ cell.IsAboveZero := by
  obtain ⟨r, c, d, parsed, columns, typeC, typeD, filteredC, filteredD, succeeds⟩ : ∃ r c d,
      Payload.readRequest (.ofPositive ["registrationDate", "levelSortOrder"]) = .ok r ∧ r.columns = [c, d] ∧
      c.type.valueType = .date ∧ d.type.valueType = .float ∧ c.moreThanZero = true ∧ d.moreThanZero = true ∧
      ((((ofRegistration Date.neverBefore).compile none r).run []).result.toOption.any fun a =>
        a.size == 1 && a.values.all fun shown => shown[0]?.any (·.isNull) && shown[1]?.any fun cell => !cell.isPositive) =
          true :=
    ⟨_, _, _, rfl, rfl, rfl, rfl, rfl, rfl, by decide +kernel⟩
  obtain ⟨answer, compiled, test⟩ := exists_of_any succeeds
  obtain ⟨_, rows, -, rfl, -⟩ := shown_of_compile (x := ofRegistration Date.neverBefore) rfl
    (Store.wellKeyed_ofRegistration _) (by rw [columns]; exact List.cons_ne_nil _ _) compiled
  obtain ⟨one, all⟩ := Bool.and_eq_true_iff.1 test
  obtain ⟨row, rfl⟩ := List.length_eq_one_iff.1 (eq_of_beq one)
  obtain ⟨first, second⟩ := Bool.and_eq_true_iff.1 (List.all_eq_true.1 all row.values (List.mem_singleton_self _))
  obtain ⟨missing, shownFirst, isNull⟩ := (Option.any_eq_true _ _).1 first
  obtain ⟨cell, shownSecond, notPositive⟩ := (Option.any_eq_true _ _).1 second
  obtain rfl : missing = .null := by
    cases missing <;> first | rfl | cases isNull
  refine ⟨r, c, d, row, parsed, columns, typeC, typeD, filteredC, filteredD, compiled, shownFirst, cell, shownSecond,
    fun above => ?_⟩
  rw [above.isPositive] at notPositive
  cases notPositive

end Service

end ActivityReport
