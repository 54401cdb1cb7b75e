import ActivityReport.Proofs.Query.Tally
import ActivityReport.Proofs.Report.Provenance

/-!
# Counter columns

What the counter columns of a report show. In a store whose totals are right each of them shows the daily
values of its counter, summed over the days of its span and over its scopes, or the quotient of two such sums
(`Service.counted_of_compile`). The rows of a log filter may be lost, and then count as none.
-/

namespace ActivityReport

open Traced (ComesTo)

namespace Column

variable {c : Column} {value : Measure → Int} {cell : Cell}

/-- What a counter column shows is in the form that its type asks for. -/
lemma normalize_counted (counted : c.counted? value = some cell) : c.type.valueType.normalize cell = cell := by
  have quotient : ∀ a b, ValueType.float.normalize (.quotient a b) = .quotient a b := by
    intro a b
    unfold Cell.quotient
    split <;> rfl
  unfold counted? measures at counted
  cases type : c.type with
  | count counter span ratio form =>
    cases ratio <;> simp only [type, Option.some.injEq] at counted <;> subst counted
    case none => rfl
    all_goals exact quotient _ _
  | averagePerDay counter span =>
    simp only [type, Option.some.injEq] at counted
    subst counted
    exact quotient _ _
  | _ => simp [type] at counted

end Column

/-- Where all that is read for the measures of a counter column fits a word, the column shows what is read. -/
lemma Store.WellKeyed.eval_counted {s : Store} (keyed : s.WellKeyed) (consistent : s.Consistent) {r : Request}
    {p : JoinPlan} (planned : JoinPlan.ofRequest r = .ok p) {n : Naming} {j : JoinedRow}
    (found : j ∈ s.joined n.actorTable p) {c : Column} (asked : c ∈ r.columns)
    (fits : ∀ m ∈ c.measures, s.TallyFits n.actorTable r.window j.actor.id m) {cell : Cell}
    (counted : c.counted? (s.readTally n.actorTable r.window j.actor.id) = some cell) :
    ∃ e, c.expression? r.window = some e ∧ e.eval j = cell := by
  obtain ⟨e, expressed, reads, value⟩ := Column.exists_expression? (w := r.window) (j := j) counted
  refine ⟨e, expressed, value fun m listed => ?_⟩
  refine keyed.eval_sum consistent found (fun k key => ?_) (fits m listed)
  obtain ⟨required, -, rfl⟩ := JoinPlan.ofRequest_eq_ok.1 planned
  -- what the expression reads the column has asked for
  have needed : .snapshot k ∈ c.needs r.window :=
    Column.snapshot_mem_needs.2 (Or.inl ⟨e, expressed, reads m listed k key⟩)
  exact JoinPlan.mem_snapshots_ofNeeds.2
    (Or.inl (List.mem_append_left _ (List.mem_flatMap.2 ⟨c, asked, needed⟩)))

/-- Where the numbers that are read for a counter column fit a word, the rows of a report show what is read for their
actors. -/
lemma Service.read_of_compile {x : Service} {s : Store} (stored : x.database.store = some s) (keyed : s.WellKeyed)
    (consistent : s.Consistent) {r : Request} (columns : r.columns ≠ []) {bots : Option (List String)}
    {clock : List Float} {answer : Answer} (h : ((x.compile bots r).run clock).result = .ok answer) :
    ∃ rows, answer = .rows rows ∧ ∀ row ∈ rows, ∃ a ∈ s.actors, row.id = .int a.id ∧
      ∀ (i : Nat) (c : Column), r.columns[i]? = some c → c.measures ≠ [] →
        (∀ m ∈ c.measures, s.TallyFits (x.settings.naming r.wikiId).actorTable r.window a.id m) →
          row.values[i]? = c.counted? (s.readTally (x.settings.naming r.wikiId).actorTable r.window a.id) := by
  obtain ⟨ladder, flagless, p, q, -, planned, built, answered⟩ := answer_of_compile h
  obtain ⟨rows, rfl, source⟩ := exists_of_mem_rows stored built columns answered
  refine ⟨rows, rfl, fun row listed => ?_⟩
  obtain ⟨j, matched, levelled, g, number, own, -, same, rfl⟩ := source row listed
  have joined := (Query.mem_matching.1 matched).1
  rw [Query.plan_of_ofPlan built] at joined
  have id : (g.finish (r.columns.map Column.type) number).id = .int j.actor.id := by
    rw [GroupedRow.finish, same, LevelledRow.report, SourceRow.raw_of_withLevels own]
    rfl
  refine ⟨j.actor, (keyed.eq_joinedRow_of_mem joined).2.1, id, fun i c asked counts fits => ?_⟩
  obtain ⟨cell, counted⟩ :=
    c.exists_counted? counts (s.readTally (x.settings.naming r.wikiId).actorTable r.window j.actor.id)
  obtain ⟨e, expressed, value⟩ :=
    keyed.eval_counted consistent planned joined (List.mem_of_getElem? asked) fits counted
  rw [getElem?_values built own same number asked expressed, value, Column.normalize_counted counted, counted]

/-- In a report from a store without double keys, in which the total of every row is right, a counter column
shows for an actor the daily values of its counter, summed over the days of its span and over its scopes, or
the quotient of two such sums, and nothing where the second one is 0. It does so as long as the numbers that
enter the sums fit a word and no row of a log filter is lost; with lost rows counting as none, the column
shows what is then read. With tables of the usual version no row is lost. -/
theorem Service.counted_of_compile {x : Service} {s : Store} (stored : x.database.store = some s)
    (keyed : s.WellKeyed) (consistent : s.Consistent) {r : Request} (columns : r.columns ≠ []) {n : Naming}
    (named : x.settings.naming r.wikiId = n) {bots : Option (List String)} {clock : List Float} {answer : Answer}
    (h : ((x.compile bots r).run clock).result = .ok answer) :
    ∃ rows, answer = .rows rows ∧
      (∀ row ∈ rows, ∃ a ∈ s.actors, row.id = .int a.id ∧ ∀ (i : Nat) (c : Column), r.columns[i]? = some c →
        c.measures ≠ [] → (∀ m ∈ c.measures, s.TallyFits n.actorTable r.window a.id m) →
          row.values[i]? = c.counted? (s.readTally n.actorTable r.window a.id) ∧
          ((∀ m ∈ c.measures, ∀ k ∈ m.keys r.window, s.loses n.actorTable k a.id = false) →
            row.values[i]? = c.counted? (s.tally r.window a.id))) ∧
      ∀ k actorId, s.loses n.actorTable k actorId = true → (∃ f, k.scope = .logged f) ∧ n.suffix ≠ "_v2" := by
  subst named
  obtain ⟨rows, rfl, shown⟩ := read_of_compile stored keyed consistent columns h
  refine ⟨rows, rfl, fun row listed => ?_, fun k actorId => Store.logged_of_loses⟩
  obtain ⟨a, known, id, values⟩ := shown row listed
  refine ⟨a, known, id, fun i c asked counts fits => ?_⟩
  have read := values i c asked counts fits
  refine ⟨read, fun kept => read.trans ?_⟩
  exact Column.counted?_congr fun m listed => Store.readTally_eq_tally r.ordered (kept m listed)

/-- Edits in half a year and their share of all edits, asked for of actors with four edits at most. -/
def Json.ofCounters : Json :=
  .object [("wikiId", .text "w"), ("columns", .list [.object [("type", .text "editsInPeriod")],
      .object [("type", .text "editsSinceRegistrationPercentageToWikiTotal")]]),
    ("requirements", .object [("totalEditsAtMost", .int 4)]), ("startDate", .text "2023-06-01"),
    ("endDate", .text "2023-12-31")]

/-- The report of the small service on one actor shows its edits and their share. -/
theorem Service.counted_of_small :
    ∃ r rows, Payload.readRequest Json.ofCounters = .ok r ∧ Store.small.WellKeyed ∧ Store.small.Consistent ∧
      r.columns ≠ [] ∧ ((Service.small.compile none r).run []).result = .ok (.rows rows) ∧ rows ≠ [] ∧
      ∀ row ∈ rows, ∃ a ∈ Store.small.actors, row.id = .int a.id ∧ ∀ (i : Nat) (c : Column),
        r.columns[i]? = some c → row.values[i]? = c.counted? (Store.small.tally r.window a.id) := by
  obtain ⟨r, parsed, columns, succeeds, checked⟩ : ∃ r, Payload.readRequest Json.ofCounters = .ok r ∧
      r.columns ≠ [] ∧
      (((Service.small.compile none r).run []).result.toOption.any fun a => a.size == 1) = true ∧
      ∀ a ∈ Store.small.actors, ∀ c ∈ r.columns, c.measures.isEmpty = false ∧ ∀ m ∈ c.measures,
        Store.small.TallyFits (Service.small.settings.naming r.wikiId).actorTable r.window a.id m ∧
          ∀ k ∈ m.keys r.window,
            Store.small.loses (Service.small.settings.naming r.wikiId).actorTable k a.id = false :=
    ⟨_, rfl, List.cons_ne_nil _ _, by decide +kernel, by decide +kernel⟩
  have consistent : Store.small.Consistent := by decide
  obtain ⟨answer, compiled, one⟩ := exists_of_any succeeds
  obtain ⟨rows, rfl, shown, -⟩ := counted_of_compile rfl Store.wellKeyed_small consistent columns rfl compiled
  have nonempty : rows ≠ [] := by
    rintro rfl
    cases one
  refine ⟨r, rows, parsed, Store.wellKeyed_small, consistent, columns, compiled, nonempty, ?_⟩
  intro row listed
  obtain ⟨a, known, id, values⟩ := shown row listed
  refine ⟨a, known, id, fun i c asked => ?_⟩
  obtain ⟨counts, each⟩ := checked a known c (List.mem_of_getElem? asked)
  have shows := values i c asked (List.isEmpty_eq_false_iff.1 counts) fun m own => (each m own).1
  exact shows.2 fun m own => (each m own).2

/-! ### A lost row -/

/-- The service of a store whose table of actors is hidden. -/
def Service.ofHiddenType : Service where
  settings := ⟨none, "resources", "_20231231_asof", "INFO", false, "bot"⟩
  resources := Resources.empty "resources"
  database := ⟨"actorEnd_Lt_5f", some Store.ofHiddenType⟩

/-- The log events of one type, asked for of the actors in a group. -/
def Json.ofHiddenType : Json :=
  .object [("wikiId", .text "actorEnd_Lt_5f"), ("columns", .list [.object [
      ("type", .text "logEventsSinceRegistrationByType"), ("logFilter", .object [("logType", .text "_actor")])]]),
    ("requirements", .object [("userGroups", .list [.text "g"])]), ("endDate", .text "2023-12-31")]

/-- The actors and the values of the rows of an answer, as far as they are whole numbers. -/
def Answer.wholes : Answer → List (Option Int × List (Option Int))
  | rows list => list.map fun row => (row.id.int?, row.values.map Cell.int?)
  | ids _ => []

/-- The actor without the latest row of all has a log event and is shown with none. -/
theorem Service.counted_loses_hidden_type :
    Store.ofHiddenType.WellKeyed ∧ Store.ofHiddenType.Consistent ∧
      ∃ r rows, Payload.readRequest Json.ofHiddenType = .ok r ∧
        ((Service.ofHiddenType.compile none r).run []).result = .ok (.rows rows) ∧
        (rows.map fun row => (row.id.int?, row.values.map Cell.int?)) = [(some 1, [some 0])] ∧
        Store.ofHiddenType.tally r.window 1
          ⟨.actor, .logEvents, .sinceRegistration, [.logged (.ofType "_actor")]⟩ = 1 := by
  refine ⟨⟨by decide, by decide, by decide, by decide⟩, by decide, ?_⟩
  obtain ⟨r, parsed, succeeds, one⟩ : ∃ r, Payload.readRequest Json.ofHiddenType = .ok r ∧
      (((Service.ofHiddenType.compile none r).run []).result.toOption.any fun a =>
        a.wholes == [(some 1, [some 0])]) = true ∧
      Store.ofHiddenType.tally r.window 1
        ⟨.actor, .logEvents, .sinceRegistration, [.logged (.ofType "_actor")]⟩ = 1 :=
    ⟨_, rfl, by decide +kernel, by decide +kernel⟩
  obtain ⟨answer, compiled, shown⟩ := exists_of_any succeeds
  cases answer with
  | rows rows => exact ⟨r, rows, parsed, compiled, eq_of_beq shown, one⟩
  | ids list => cases eq_of_beq shown

end ActivityReport
