import ActivityReport.Proofs.Query.Matching
import ActivityReport.Proofs.Trace.Outcome
import ActivityReport.Report.Compile

/-!
# Answers

Where a successful answer comes from. Each stage of `Service.compile` is traced back to what it came to:
the plan and the query of the request, the rows that the query returns from the store, and the rows or
actors that are made of them (`Service.answer_of_compile`).
-/

namespace ActivityReport

open Traced (ComesTo comesTo_pure comesTo_result comesTo_of_run not_comesTo_fail)

variable {r : Request} {q : Query} {answer : Answer}

/-- The tables that names mean are those of the store. -/
lemma Database.store_of_tablesOf {db : Database} {n : Naming} {s : Store} (h : db.tablesOf n = .ok s) :
    db.store = some s := by
  unfold tablesOf at h
  split at h
  · cases h
  · split at h
    · cases h
    · split at h
      · rename_i s' stored
        split at h
        · rw [stored, Except.ok.inj h]
        · cases h
      · cases h

/-- A query that a database answers is run on the store, whose tables the names mean. -/
lemma Database.execute_eq_ok {db : Database} {s : Store} (stored : db.store = some s) {n : Naming}
    {rows : List RawRow} (h : db.execute n q = .ok rows) : rows = q.rows s n.actorTable := by
  obtain ⟨s', tables, h⟩ := bind_eq_ok.1 h
  obtain rfl : s = s' := Option.some.inj (stored.symm.trans (store_of_tablesOf tables))
  split at h
  · obtain ⟨_, h, -⟩ := bind_eq_ok.1 h
    cases h
  · obtain ⟨_, -, h⟩ := bind_eq_ok.1 h
    exact (Except.ok.inj h).symm

namespace Service

/-- The query that is prepared for a request is the one of its plan. -/
lemma query_of_prepare (h : (prepare r).ComesTo q) :
    ∃ p, JoinPlan.ofRequest r = .ok p ∧ Query.ofPlan p r = .ok q := by
  obtain ⟨p, analyzed, h⟩ := h.bind
  obtain ⟨_, -, h⟩ := h.bind
  obtain ⟨q', generated, h⟩ := h.stage.bind
  obtain ⟨_, -, h⟩ := h.bind
  obtain ⟨p', planned, analyzed⟩ := analyzed.stage.bind
  obtain ⟨_, -, analyzed⟩ := analyzed.bind
  rw [comesTo_pure] at h analyzed
  subst h analyzed
  exact ⟨p', mapError_eq_ok.1 (comesTo_result.1 planned), mapError_eq_ok.1 (comesTo_result.1 generated)⟩

/-- An answer that is guarded against refusals is an answer. -/
lemma answer_of_guardedAnswer {x : Service} {ladder : Option Ladder} {bots : List String}
    (h : (x.guardedAnswer r q ladder bots).ComesTo answer) : (x.answer r q ladder bots).ComesTo answer := by
  obtain ⟨clock, h⟩ := h.attempt_bind
  cases result : ((x.answer r q ladder bots).run clock).result with
  | ok a =>
    rw [result] at h
    rw [comesTo_pure.1 h] at result
    exact ⟨clock, result⟩
  | error e =>
    rw [result] at h
    cases e with
    | database f =>
      obtain ⟨_, -, h⟩ := h.bind
      exact absurd h not_comesTo_fail
    | _ => exact absurd h not_comesTo_fail

/-- Where an answer comes from: the ladder is resolved first, then the query is made from the plan of the
request, and the answer is worked out from it. -/
lemma answer_of_compile {x : Service} {bots : Option (List String)} {clock : List Float}
    (h : ((x.compile bots r).run clock).result = .ok answer) :
    ∃ ladder flagless p q, ((x.resources.resolveLadder r).run clock).result = .ok ladder ∧
      JoinPlan.ofRequest r = .ok p ∧ Query.ofPlan p r = .ok q ∧
        (x.answer r q ladder flagless).ComesTo answer := by
  obtain ⟨ladder, resolved, h⟩ := Traced.run_bind_eq_ok.1 h
  have compiled : ∃ flagless, (Traced.log .info r.summary >>= fun _ =>
      Traced.timed Failure.names r.wikiId (fun a => some (.int a.size))
        (prepare r >>= fun q => x.guardedAnswer r q ladder flagless)).ComesTo answer := by
    cases bots with
    | some list => exact ⟨list, comesTo_of_run h⟩
    | none =>
      obtain ⟨flagless, -, h⟩ := (comesTo_of_run h).bind
      exact ⟨flagless, h⟩
  obtain ⟨flagless, compiled⟩ := compiled
  obtain ⟨_, -, compiled⟩ := compiled.bind
  obtain ⟨q, prepared, answered⟩ := compiled.timed.bind
  obtain ⟨p, planned, built⟩ := query_of_prepare prepared
  exact ⟨ladder, flagless, p, q, resolved, planned, built, answer_of_guardedAnswer answered⟩

/-- The layout of the rows of a request's query. -/
def layout (r : Request) (q : Query) (ladder : Option Ladder) : Layout :=
  Layout.ofRequest r q.labels q.plan.levels ladder

/-- The three forms of an answer to a request whose query returns some rows: without columns and without
levels the actors of the rows, without columns the actors of the rows that are kept for their levels, and
otherwise the report on the rows. -/
lemma cases_of_answer {x : Service} {s : Store} (stored : x.database.store = some s) {ladder : Option Ladder}
    {flagless : List String} (h : (x.answer r q ladder flagless).ComesTo answer) :
    (r.columns = [] ∧ q.plan.levels = [] ∧
      answer = .ids ((q.rows s (x.settings.naming r.wikiId).actorTable).map RawRow.id)) ∨
    (r.columns = [] ∧ ∃ ids, ((layout r q ladder).actorIds r
        ((q.rows s (x.settings.naming r.wikiId).actorTable).map RawRow.source)).ComesTo ids ∧
      answer = .ids (ids.filterMap Cell.int?)) ∨
    (r.columns ≠ [] ∧ ∃ rows, ((layout r q ladder).report r
        (r.numbering x.settings.botGroupName (flagless.map .text)) (groupSource s)
        ((q.rows s (x.settings.naming r.wikiId).actorTable).map RawRow.source)).ComesTo rows ∧
      answer = .rows rows) := by
  obtain ⟨result, executed, h⟩ := h.bind
  obtain ⟨_, -, executed⟩ := executed.stage.bind
  obtain ⟨rows, found, executed⟩ := executed.bind
  obtain rfl := Database.execute_eq_ok stored (comesTo_result.1 found)
  split at executed
  · rename_i plain
    rw [Bool.and_eq_true, List.isEmpty_iff, List.isEmpty_iff] at plain
    obtain ⟨_, -, executed⟩ := executed.bind
    rw [comesTo_pure] at executed
    subst executed
    exact Or.inl ⟨plain.1, plain.2, (comesTo_pure.1 h).symm⟩
  · obtain ⟨_, -, executed⟩ := executed.bind
    split at executed
    · rename_i columns
      obtain ⟨ids, kept, executed⟩ := executed.bind
      rw [comesTo_pure] at executed
      subst executed
      exact Or.inr (Or.inl ⟨List.isEmpty_iff.1 columns, ids, kept, (comesTo_pure.1 h).symm⟩)
    · rename_i columns
      rw [comesTo_pure] at executed
      subst executed
      obtain ⟨rows, reported, h⟩ := h.bind
      rw [stored] at reported
      refine Or.inr (Or.inr ⟨?_, rows, reported.stage, (comesTo_pure.1 h).symm⟩)
      exact fun none => columns (List.isEmpty_iff.2 none)

/-- A request for columns is answered with the report on the rows. -/
lemma report_of_answer {x : Service} {s : Store} (stored : x.database.store = some s) {ladder : Option Ladder}
    {flagless : List String} (columns : r.columns ≠ []) (h : (x.answer r q ladder flagless).ComesTo answer) :
    ∃ rows, ((layout r q ladder).report r (r.numbering x.settings.botGroupName (flagless.map .text)) (groupSource s)
        ((q.rows s (x.settings.naming r.wikiId).actorTable).map RawRow.source)).ComesTo rows ∧
      answer = .rows rows := by
  rcases cases_of_answer stored h with ⟨none, -⟩ | ⟨none, -⟩ | ⟨-, reported⟩
  · exact absurd none columns
  · exact absurd none columns
  · exact reported

/-- Only a request for columns is answered with rows. -/
lemma columns_of_answer {x : Service} {s : Store} (stored : x.database.store = some s) {ladder : Option Ladder}
    {flagless : List String} {rows : List ActorRow} (h : (x.answer r q ladder flagless).ComesTo (.rows rows)) :
    r.columns ≠ [] := by
  rcases cases_of_answer stored h with ⟨-, -, same⟩ | ⟨-, _, -, same⟩ | ⟨columns, -⟩
  · cases same
  · cases same
  · exact columns

end Service

/-! ### A small service -/

/-- A row of the whole activity of a subject, with one number for every counter. -/
def CounterRow.uniform (subject : Option Int) (date : Date) (daily toDate : Int) : CounterRow :=
  ⟨subject, .whole, date, fun _ => daily, fun _ => toDate⟩

/-- A store of two actors, one of them with rows on two days, and of the wiki. -/
def Store.small : Store where
  actors := [⟨2, "B", true, none⟩, ⟨1, "A", true, none⟩]
  counters :=
    [.uniform (some 1) Date.mayFifth 2 0, .uniform (some 1) Date.juneFifth 1 2,
     .uniform (some 2) Date.mayFifth 5 0, .uniform none Date.mayFifth 7 0,
     .uniform none Date.juneFifth 1 7]
  groups := []
  templates := []

/-- The service of that store, without configuration files. -/
def Service.small : Service where
  settings := ⟨none, "resources", "_v2", "INFO", false, "bot"⟩
  resources := Resources.empty "resources"
  database := ⟨"w", some Store.small⟩

/-- The small store has no double keys. -/
lemma Store.wellKeyed_small : Store.small.WellKeyed := ⟨by decide, by decide, by decide, by decide⟩

/-- A result that passes a test is a value that passes it. -/
lemma exists_of_any {ε α : Type} {r : Except ε α} {p : α → Bool} (h : r.toOption.any p = true) :
    ∃ a, r = .ok a ∧ p a = true := by
  cases r with
  | ok a => exact ⟨a, rfl, h⟩
  | error e => cases h

/-- A result of which something is read off its rows is a report. -/
lemma Answer.exists_rows_of_any {ε β : Type} [BEq β] [LawfulBEq β] (read : Answer → List β)
    (noRows : ∀ list, read (.ids list) = []) {result : Except ε Answer} {first : β} {rest : List β}
    (h : (result.toOption.any fun a => read a == first :: rest) = true) :
    ∃ rows, result = .ok (.rows rows) ∧ read (.rows rows) = first :: rest := by
  obtain ⟨answer, rfl, shown⟩ := exists_of_any h
  have shown : read answer = first :: rest := eq_of_beq shown
  cases answer with
  | rows rows => exact ⟨rows, rfl, shown⟩
  | ids list =>
    rw [noRows] at shown
    cases shown

end ActivityReport
