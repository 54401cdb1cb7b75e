import ActivityReport.Proofs.Query.Replacement
import ActivityReport.Proofs.Report.Ranks
import ActivityReport.Proofs.Report.Refusals

/-!
# Reports compared

Two requests are compared stage by stage. Their queries are made without a look at the store, so only what the
queries return and what is made of it is left to be shown alike; the result is then the same, but for the number
of joins that a refusal by the database tells (`Service.compile_agree`).
-/

namespace ActivityReport

open Traced (Agree)

/-! ## Numbering -/

namespace NumberingRules

/-- Whether two sets of rules number rows alike: the group of bots matters only where bots are passed over, and the
types of columns only as finished rows show them. -/
structure Alike (rules' rules : NumberingRules) : Prop where
  finish : ∀ (g : GroupedRow) number, g.finish rules'.types number = g.finish rules.types number
  limit : rules'.limit = rules.limit
  skipsBots : rules'.skipsBots = rules.skipsBots
  botGroup : rules.skipsBots = true → rules'.botGroup = rules.botGroup
  bots : rules'.bots = rules.bots

namespace Alike

variable {rules' rules : NumberingRules}

lemma isDone_eq (h : rules'.Alike rules) (count : Nat) : rules'.isDone count = rules.isDone count :=
  congrArg (Option.any fun limit => decide (limit ≤ count)) h.limit

lemma passes_eq (h : rules'.Alike rules) (groups : List Cell) (name : Cell) :
    rules'.passes groups name = rules.passes groups name := by
  unfold passes
  rw [h.skipsBots, h.bots]
  cases skips : rules.skipsBots with
  | false => rfl
  | true => rw [h.botGroup skips]

lemma nameFault?_eq (h : rules'.Alike rules) : rules'.nameFault? = rules.nameFault? := by
  funext row
  unfold nameFault?
  rw [h.skipsBots]
  cases skips : rules.skipsBots with
  | false => rfl
  | true => rw [h.botGroup skips]

lemma keyFault?_eq (h : rules'.Alike rules) (made : Nat) (asked : List (List Cell)) (rows : List ActorRow) :
    rules'.keyFault? made asked rows = rules.keyFault? made asked rows := by
  induction asked generalizing made rows with
  | nil => rw [keyFault?, keyFault?, h.nameFault?_eq]
  | cons ids asked ih => rw [keyFault?, keyFault?, h.nameFault?_eq, ih]

lemma number_eq (h : rules'.Alike rules) (lookup : GroupLookup) (batch count : Nat) (known : List GroupedRow)
    (rest : List ReportRow) :
    rules'.number lookup batch count known rest = rules.number lookup batch count known rest := by
  fun_induction NumberingRules.number rules lookup batch count known rest with
  | case1 => rw [number]
  | case2 count g known rest done => rw [number, h.isDone_eq, if_pos done]
  | case3 count g known rest notDone passes rows asked result ih =>
    rw [number, h.isDone_eq, if_neg notDone, h.passes_eq, if_pos passes, ih, result, h.finish]
  | case4 count g known rest notDone counts rows asked result ih =>
    rw [number, h.isDone_eq, if_neg notDone, h.passes_eq, if_neg counts, ih, result, h.finish]
  | case5 count row rest done => rw [number, h.isDone_eq, if_pos done]
  | case6 count row rest notDone ids rows asked result ih =>
    rw [result] at ih
    rw [number, h.isDone_eq, if_neg notDone]
    simp only [ids, ih]

lemma apply_eq (h : rules'.Alike rules) (groups : GroupSource) (known : List GroupedRow) (rest : List ReportRow) :
    rules'.apply groups known rest = rules.apply groups known rest := by
  unfold apply
  simp only [h.number_eq, h.keyFault?_eq, h.bots, h.skipsBots]

end Alike

end NumberingRules

/-! ## Queries -/

/-- Two queries that a database refuses alike return rows that are related when their rows in the store are. -/
lemma Database.execute_corresponds {R : List RawRow → List RawRow → Prop} {db : Database} {n : Naming}
    {q q' : Query}
    (size : (q'.plan.isJoinable n.actorTable && q'.isWithinLimits) =
      (q.plan.isJoinable n.actorTable && q.isWithinLimits))
    (parameters : q'.parameters.all Number.fitsWord = q.parameters.all Number.fitsWord)
    (rows : ∀ s, db.store = some s → R (q'.rows s n.actorTable) (q.rows s n.actorTable)) :
    Corresponds R (db.execute n q') (db.execute n q) := by
  unfold execute
  cases tables : db.tablesOf n with
  | error e => exact .error e
  | ok s =>
    show Corresponds R (if !(q'.plan.isJoinable n.actorTable && q'.isWithinLimits) then _ else _)
      (if !(q.plan.isJoinable n.actorTable && q.isWithinLimits) then _ else _)
    rw [size]
    split
    · exact .error _
    · unfold checkIntegers
      rw [parameters]
      split
      · exact .ok (rows s (store_of_tablesOf tables))
      · exact .error _

namespace Service

variable {x : Service} {r r' : Request} {q q' : Query}

/-- The query of a request is prepared in three stages, with two readings of the clock for each. -/
lemma run_prepare (r : Request) (clock : List Float) :
    ((prepare r).run clock).result = (Query.ofRequest r).mapError .query ∧
      ∀ q, Query.ofRequest r = .ok q → ((prepare r).run clock).clock = clock.tail.tail.tail.tail.tail.tail := by
  unfold Query.ofRequest prepare
  cases JoinPlan.ofRequest r with
  | error f => exact ⟨rfl, nofun⟩
  | ok p =>
    -- the first two stages come to the plan whatever it is
    show ((stage r "generate" (Traced.result ((Query.ofPlan p r).mapError .query) >>= fun q =>
        Traced.log .debug (q.summary r.wikiId) >>= fun _ => pure q)).run clock.tail.tail.tail.tail).result =
          (Query.ofPlan p r).mapError .query ∧ ∀ q, Query.ofPlan p r = .ok q →
      ((stage r "generate" (Traced.result ((Query.ofPlan p r).mapError .query) >>= fun q =>
        Traced.log .debug (q.summary r.wikiId) >>= fun _ => pure q)).run clock.tail.tail.tail.tail).clock = _
    cases Query.ofPlan p r with
    | error f => exact ⟨rfl, nofun⟩
    | ok q => exact ⟨rfl, fun _ _ => rfl⟩

/-- What a failure to answer a query becomes: a refusal by the database is told with the number of joins. -/
def guarded (r : Request) (q : Query) : Failure → Failure
  | .database f => .incident (queryIncident r q f)
  | e => e

lemma run_guardedAnswer {ladder : Option Ladder} {bots : List String} (clock : List Float) :
    ((x.guardedAnswer r q ladder bots).run clock).result =
      ((x.answer r q ladder bots).run clock).result.mapError (guarded r q) := by
  unfold guardedAnswer Traced.run
  generalize x.answer r q ladder bots = body
  simp only [Bind.bind, Traced.bind, Traced.attempt]
  cases (body clock).result with
  | ok a => rfl
  | error e => cases e <;> rfl

/-- The work on a request whose ladder and bots are known. -/
def work (x : Service) (r : Request) (ladder : Option Ladder) (bots : List String) : Traced Failure Answer := do
  Traced.log .info r.summary
  Traced.timed Failure.names r.wikiId (fun a => some (.int a.size)) do
    let q ← prepare r
    x.guardedAnswer r q ladder bots

/-- The query of a request is made, and then answered. -/
lemma run_work {ladder : Option Ladder} {bots : List String} (clock : List Float) :
    ((x.work r ladder bots).run clock).result =
      ((Query.ofRequest r).mapError .query >>= fun q =>
        ((x.answer r q ladder bots).run clock.tail.tail.tail.tail.tail.tail.tail).result.mapError (guarded r q)) := by
  obtain ⟨result, rest⟩ := run_prepare r clock.tail
  show ((Traced.timed Failure.names r.wikiId _ (prepare r >>= fun q =>
    x.guardedAnswer r q ladder bots)).run clock).result = _
  rw [Traced.run_timed, Traced.run_bind, result]
  cases query : Query.ofRequest r with
  | error f => rfl
  | ok q =>
    show ((x.guardedAnswer r q ladder bots).run _).result = _
    rw [rest q query, run_guardedAnswer]
    rfl

/-! ## Answers -/

/-- Whether two queries to a database are answered with the same, whatever is left to be done with their rows. -/
structure AnswersAlike (x : Service) (r' r : Request) (q' q : Query) (R : List RawRow → List RawRow → Prop) :
    Prop where
  executed : Corresponds R (x.database.execute (x.settings.naming r'.wikiId) q')
    (x.database.execute (x.settings.naming r.wikiId) q)
  asked : r'.columns.isEmpty = r.columns.isEmpty
  levels : r.columns.isEmpty = true → q'.plan.levels.isEmpty = q.plan.levels.isEmpty
  ids : ∀ rows' rows, R rows' rows → rows'.map RawRow.id = rows.map RawRow.id
  kept : ∀ rows' rows, R rows' rows → ∀ ladder, Agree Eq
    ((layout r' q' ladder).actorIds r' (rows'.map RawRow.source))
    ((layout r q ladder).actorIds r (rows.map RawRow.source))
  reported : ∀ rows' rows, R rows' rows → ∀ ladder botGroup bots groups, Agree Eq
    ((layout r' q' ladder).report r' (r'.numbering botGroup bots) groups (rows'.map RawRow.source))
    ((layout r q ladder).report r (r.numbering botGroup bots) groups (rows.map RawRow.source))

namespace AnswersAlike

variable {R : List RawRow → List RawRow → Prop}

/-- The rows of two such queries are worked up in the same way, or both give the same actors. -/
lemma execute_agree (h : x.AnswersAlike r' r q' q R) (ladder : Option Ladder) :
    Agree (fun found' found => (∃ ids, found' = .inr ids ∧ found = .inr ids) ∨
        ∃ rows' rows, R rows' rows ∧ found' = .inl (rows'.map RawRow.source) ∧ found = .inl (rows.map RawRow.source))
      (x.execute r' q' (layout r' q' ladder)) (x.execute r q (layout r q ladder)) := by
  unfold execute
  refine Agree.logAll_bind ((Agree.result h.executed).bind fun rows' rows related => ?_)
  have ids := h.ids rows' rows related
  rw [h.asked]
  cases empty : r.columns.isEmpty with
  | true =>
    show Agree _ (if q'.plan.levels.isEmpty then _ else _) (if q.plan.levels.isEmpty then _ else _)
    rw [h.levels empty]
    split
    · exact Agree.logAll_bind (.pure (Or.inl ⟨_, congrArg _ ids, rfl⟩))
    · refine Agree.logAll_bind ((h.kept rows' rows related ladder).bind ?_)
      rintro kept _ rfl
      exact .pure (Or.inl ⟨_, rfl, rfl⟩)
  | false => exact Agree.logAll_bind (.pure (Or.inr ⟨rows', rows, related, rfl, rfl⟩))

/-- Two such queries have the same answer. -/
lemma answer_agree (h : x.AnswersAlike r' r q' q R) (wiki : r'.wikiId = r.wikiId) (ladder : Option Ladder)
    (bots : List String) : Agree Eq (x.answer r' q' ladder bots) (x.answer r q ladder bots) := by
  unfold answer stage
  rw [wiki]
  refine (h.execute_agree ladder).stage.bind ?_
  rintro _ _ (⟨ids, rfl, rfl⟩ | ⟨rows', rows, related, rfl, rfl⟩)
  · exact .refl _
  · refine (h.reported rows' rows related ladder _ _ _).stage.bind ?_
    rintro answer _ rfl
    exact .refl _

end AnswersAlike

/-! ## Requests -/

/-- Whether two results are the same, or the refusals of two related queries by a database: a refusal tells the
number of joins of its own query. -/
def SameOrRefused (x : Service) (Q : Query → Query → Prop) (r' r : Request) (a' a : Except Failure Answer) : Prop :=
  a' = a ∨ ∃ q' q f, Q q' q ∧ x.database.execute (x.settings.naming r.wikiId) q = .error (.database f) ∧
    a' = .error (.incident (queryIncident r' q' f)) ∧ a = .error (.incident (queryIncident r q f))

variable {Q : Query → Query → Prop}

/-- The same answer is guarded to the same, but for a refusal by the database. -/
lemma sameOrRefused_guarded (related : Q q' q) {ladder : Option Ladder} {bots : List String} {clock : List Float}
    {answer : Except Failure Answer} (own : ((x.answer r q ladder bots).run clock).result = answer) :
    x.SameOrRefused Q r' r (answer.mapError (guarded r' q')) (answer.mapError (guarded r q)) := by
  cases answer with
  | ok a => exact Or.inl rfl
  | error e =>
    cases e with
    | database f => exact Or.inr ⟨q', q, f, related, execute_of_answer own, rfl, rfl⟩
    | _ => exact Or.inl rfl

/-- The work on two requests whose queries are answered alike comes to the same, unless the database refuses both
queries. -/
lemma work_alike (queries : Corresponds Q (Query.ofRequest r') (Query.ofRequest r))
    (answers : ∀ q' q, Q q' q → ∀ ladder bots, Agree Eq (x.answer r' q' ladder bots) (x.answer r q ladder bots))
    (ladder : Option Ladder) (bots : List String) (clock : List Float) :
    x.SameOrRefused Q r' r ((x.work r' ladder bots).run clock).result ((x.work r ladder bots).run clock).result := by
  rw [run_work, run_work]
  generalize Query.ofRequest r' = query' at queries ⊢
  generalize Query.ofRequest r = query at queries ⊢
  cases queries with
  | error f =>
    show x.SameOrRefused Q r' r (.error (.query f)) (.error (.query f))
    exact Or.inl rfl
  | @ok q' q related =>
    have same := (answers q' q related ladder bots clock.tail.tail.tail.tail.tail.tail.tail).1.eq
    show x.SameOrRefused Q r' r (Except.mapError _ _) (Except.mapError _ _)
    rw [same]
    exact sameOrRefused_guarded related rfl

/-- A first step in common does not count. -/
lemma SameOrRefused.bind {α : Type} {first : Traced Failure α} {next' next : α → Traced Failure Answer}
    (each : ∀ a clock, x.SameOrRefused Q r' r ((next' a).run clock).result ((next a).run clock).result)
    (clock : List Float) :
    x.SameOrRefused Q r' r ((first >>= next').run clock).result ((first >>= next).run clock).result := by
  rw [Traced.run_bind, Traced.run_bind]
  cases (first.run clock).result with
  | error e => exact Or.inl rfl
  | ok a => exact each a _

/-- A request is worked on once its ladder and the bots are known. -/
lemma compile_eq_work (x : Service) (bots : Option (List String)) (r : Request) :
    x.compile bots r = (x.resources.resolveLadder r >>= fun ladder =>
      (bots.elim (x.resources.resolveFlaglessBots r) pure >>= fun bots => x.work r ladder bots)) := by
  unfold compile
  cases bots with
  | some list => rfl
  | none => rfl

/-- Two requests whose queries are answered alike come to the same, unless the database refuses both queries. -/
lemma compile_alike {bots : Option (List String)}
    (ladders : x.resources.resolveLadder r' = x.resources.resolveLadder r)
    (flagless : x.resources.resolveFlaglessBots r' = x.resources.resolveFlaglessBots r)
    (queries : Corresponds Q (Query.ofRequest r') (Query.ofRequest r))
    (answers : ∀ q' q, Q q' q → ∀ ladder bots, Agree Eq (x.answer r' q' ladder bots) (x.answer r q ladder bots))
    (clock : List Float) :
    x.SameOrRefused Q r' r ((x.compile bots r').run clock).result ((x.compile bots r).run clock).result := by
  rw [compile_eq_work, compile_eq_work, ladders, flagless]
  exact .bind (fun ladder => .bind fun bots => work_alike queries answers ladder bots) clock

end Service

end ActivityReport
