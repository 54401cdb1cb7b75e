import ActivityReport.Proofs.Config.Reach
import ActivityReport.Proofs.Query.Faults
import ActivityReport.Proofs.Report.Answered

/-!
# Failures that escape

A report is meant to end in an answer or in an incident. Some failures are neither (`Service.Escapes`): a configuration
file is out of reach, a condition leaves the calendar or has nothing to sum over, or a whole number of the request does
not fit the database, which otherwise takes the query. There are no others: what comes after the query does not fail
(`Service.escapes_of_compile`).
-/

namespace ActivityReport

open Number (fitsWord)
open Traced (ComesTo run_bind_eq_error)

/-! ## Queries that are not made -/

/-- Whether the conditions of a request leave the calendar or have nothing to sum over. -/
def Request.IsUnanswerable (r : Request) : Prop :=
  (∃ t, .threshold t ∈ r.conditions ∧ (t.LeavesCalendar r.window ∨ t.SumsNothing r.window)) ∨
    (r.window.finish.toYmd = (9999, 12, 31) ∧ ∃ c ∈ r.conditions, c.LooksPastFinish)

lemma Query.exists_ofRequest_eq_error_iff {r : Request} (offered : ∀ c ∈ r.conditions, c.criterion ∈ Criterion.all) :
    (∃ f, ofRequest r = .error f) ↔ r.IsUnanswerable := by
  have leaving := @Request.exists_ofRequest_eq_error_iff r
  cases planned : JoinPlan.ofRequest r with
  | error f =>
    rw [planned] at leaving
    obtain ⟨t, listed, leaves⟩ := leaving.1 ⟨f, rfl⟩
    refine ⟨fun _ => Or.inl ⟨t, listed, Or.inl leaves⟩, fun _ => ⟨.day f, ?_⟩⟩
    unfold ofRequest
    rw [planned]
    rfl
  | ok p =>
    have made : ofRequest r = ofPlan p r := by
      unfold ofRequest
      rw [planned]
      rfl
    have stays : ∀ t, .threshold t ∈ r.conditions → ¬ t.LeavesCalendar r.window := by
      intro t listed leaves
      obtain ⟨f, failed⟩ := leaving.2 ⟨t, listed, leaves⟩
      rw [planned] at failed
      cases failed
    rw [made, Request.exists_ofPlan_eq_error_iff offered planned]
    refine or_congr_left ?_
    constructor
    · rintro ⟨t, listed, nothing⟩
      exact ⟨t, listed, Or.inr nothing⟩
    · rintro ⟨t, listed, leaves | nothing⟩
      · exact absurd leaves (stays t listed)
      · exact ⟨t, listed, nothing⟩

lemma QueryFault.name_mem (f : QueryFault) :
    ¬ (Failure.query f).IsIncident ∧ (Failure.query f).name ∈ ["OverflowError", "TypeError"] := by
  cases f with
  | day f =>
    show ¬ ("OverflowError" = "StatisticsQueryError" ∨ "OverflowError" = "ConfigurationError") ∧ "OverflowError" ∈ _
    decide
  | emptySum =>
    show ¬ ("TypeError" = "StatisticsQueryError" ∨ "TypeError" = "ConfigurationError") ∧ "TypeError" ∈ _
    decide

/-! ## Queries that are not run -/

namespace Database

variable {db : Database} {n : Naming} {q : Query} {e : Failure}

/-- Whether a database takes a query, apart from the whole numbers in it. -/
def Admits (db : Database) (n : Naming) (q : Query) : Prop :=
  (∃ s, db.tablesOf n = .ok s) ∧ (q.plan.isJoinable n.actorTable && q.isWithinLimits) = true

lemma exists_refusal_of_tablesOf (h : db.tablesOf n = .error e) : ∃ f, e = .database f := by
  unfold tablesOf at h
  split at h
  · exact ⟨_, (Except.error.inj h).symm⟩
  split at h
  · exact ⟨_, (Except.error.inj h).symm⟩
  split at h
  · split at h
    · cases h
    · exact ⟨_, (Except.error.inj h).symm⟩
  · exact ⟨_, (Except.error.inj h).symm⟩

lemma checkIntegers_eq_error_iff {ns : List Int} :
    checkIntegers ns = .error e ↔ e = .wideInteger ∧ ∃ k ∈ ns, fitsWord k = false := by
  have wide : (∃ k ∈ ns, fitsWord k = false) ↔ ¬ ns.all fitsWord = true := by simp
  unfold checkIntegers
  rw [wide]
  split
  · rename_i fits
    exact ⟨nofun, fun h => absurd fits h.2⟩
  · rename_i wide
    exact ⟨fun h => ⟨(Except.error.inj h).symm, wide⟩, fun h => congrArg Except.error h.1.symm⟩

lemma exists_refusal_of_not_admits (h : ¬ db.Admits n q) : ∃ f, db.execute n q = .error (.database f) := by
  unfold execute
  cases tables : db.tablesOf n with
  | error e =>
    obtain ⟨f, rfl⟩ := exists_refusal_of_tablesOf tables
    exact ⟨f, rfl⟩
  | ok s =>
    refine ⟨.unusable, ?_⟩
    show (if !(q.plan.isJoinable n.actorTable && q.isWithinLimits) then _ else _) = _
    rw [Bool.eq_false_iff.2 fun taken => h ⟨⟨s, tables⟩, taken⟩]
    rfl

/-- A query that the database takes fails for its whole numbers only. -/
lemma execute_eq_error_iff (h : db.Admits n q) : db.execute n q = .error e ↔
    e = .wideInteger ∧ ∃ k ∈ q.parameters, fitsWord k = false := by
  obtain ⟨⟨s, tables⟩, taken⟩ := h
  have run : db.execute n q = checkIntegers q.parameters >>= fun _ => .ok (q.rows s n.actorTable) := by
    unfold execute
    rw [tables]
    show (if !(q.plan.isJoinable n.actorTable && q.isWithinLimits) then _ else _) = _
    rw [taken]
    rfl
  rw [run, bind_ok_eq_error, checkIntegers_eq_error_iff]

end Database

/-! ## Reports -/

/-- The ways in which the work on a request ends neither in an answer nor in an incident. -/
inductive Service.Escapes (x : Service) (bots : Option (List String)) (r : Request) : Prop where
  /-- The ladder is in a file that is out of reach. -/
  | ladder (lost : x.resources.LosesLadder r)
  /-- The bots are in a file that is out of reach. -/
  | bots {ladder : Option Ladder} (resolved : (x.resources.resolveLadder r).ComesTo ladder) (notGiven : bots = none)
    (lost : x.resources.LosesBots r)
  /-- A condition leaves the calendar or has nothing to sum over. -/
  | query {ladder : Option Ladder} {flagless : List String} (resolved : (x.resources.resolveLadder r).ComesTo ladder)
    (known : (bots.elim (x.resources.resolveFlaglessBots r) pure).ComesTo flagless) (unanswerable : r.IsUnanswerable)
  /-- A whole number does not fit the database, which otherwise takes the query. -/
  | number {ladder : Option Ladder} {flagless : List String} {q : Query} {n : Int}
    (resolved : (x.resources.resolveLadder r).ComesTo ladder)
    (known : (bots.elim (x.resources.resolveFlaglessBots r) pure).ComesTo flagless) (built : Query.ofRequest r = .ok q)
    (admitted : x.database.Admits (x.settings.naming r.wikiId) q) (listed : n ∈ q.parameters) (wide : fitsWord n = false)

namespace Service

variable {x : Service} {bots : Option (List String)} {r : Request} {q : Query} {ladder : Option Ladder}
  {flagless : List String} {clock : List Float} {e : Failure}

/-- The names of the failures that are no incidents. -/
def escapeNames : List String := ["OSError", "RecursionError", "OverflowError", "TypeError"]

lemma isIncident_or_of_answer
    (stored : ∀ s, x.database.store = some s → s.WellKeyed ∧ ∀ n ∈ s.integers, fitsWord n = true)
    (built : Query.ofRequest r = .ok q)
    (failed : ((x.answer r q ladder flagless).run clock).result.mapError (guarded r q) = .error e) :
    e.IsIncident ∨ e = .wideInteger ∧ x.database.Admits (x.settings.naming r.wikiId) q ∧
      ∃ n ∈ q.parameters, fitsWord n = false := by
  obtain ⟨own, unanswered, rfl⟩ := mapError_eq_error.1 failed
  have refused := (answer_eq_error_iff stored built).1 unanswered
  by_cases admitted : x.database.Admits (x.settings.naming r.wikiId) q
  · obtain ⟨rfl, wide⟩ := (Database.execute_eq_error_iff admitted).1 refused
    exact Or.inr ⟨rfl, admitted, wide⟩
  · obtain ⟨f, same⟩ := Database.exists_refusal_of_not_admits admitted
    rw [same] at refused
    cases refused
    exact Or.inl (Or.inl rfl)

/-- A failure in the work on a request is an incident, or one of the ways to escape. -/
lemma isIncident_or_escapes (offered : ∀ c ∈ r.conditions, c.criterion ∈ Criterion.all)
    (stored : ∀ s, x.database.store = some s → s.WellKeyed ∧ ∀ n ∈ s.integers, fitsWord n = true)
    (failed : ((x.compile bots r).run clock).result = .error e) :
    e.IsIncident ∨ x.Escapes bots r ∧ e.name ∈ escapeNames := by
  have unread : ∀ {name : String}, name = "OSError" ∨ name = "RecursionError" → name ∈ escapeNames := by
    rintro _ (rfl | rfl)
    · exact List.mem_cons_self
    · exact List.mem_cons_of_mem _ List.mem_cons_self
  rw [compile_eq_work] at failed
  rcases run_bind_eq_error.1 failed with failed | ⟨ladder, resolved, failed⟩
  · refine (Resources.isIncident_or_of_resolveLadder failed).imp_right ?_
    rintro ⟨lost, named⟩
    exact ⟨.ladder lost, unread named⟩
  rcases run_bind_eq_error.1 failed with failed | ⟨flagless, known, failed⟩
  · cases bots with
    | some list => cases failed
    | none =>
      refine (Resources.isIncident_or_of_resolveFlaglessBots failed).imp_right ?_
      rintro ⟨lost, named⟩
      exact ⟨.bots ⟨_, resolved⟩ rfl lost, unread named⟩
  rw [run_work] at failed
  rcases bind_eq_error.1 failed with failed | ⟨q, built, failed⟩
  · obtain ⟨f, missing, rfl⟩ := mapError_eq_error.1 failed
    refine Or.inr ⟨.query ⟨_, resolved⟩ ⟨_, known⟩ ((Query.exists_ofRequest_eq_error_iff offered).1 ⟨f, missing⟩), ?_⟩
    exact List.mem_append_right ["OSError", "RecursionError"] f.name_mem.2
  · have built := mapError_eq_ok.1 built
    refine (isIncident_or_of_answer stored built failed).imp_right ?_
    rintro ⟨rfl, admitted, n, listed, wide⟩
    exact ⟨.number ⟨_, resolved⟩ ⟨_, known⟩ built admitted listed wide, by decide⟩

/-- A way to escape leads to a failure that is no incident. -/
lemma Escapes.exists_error (h : x.Escapes bots r) (offered : ∀ c ∈ r.conditions, c.criterion ∈ Criterion.all)
    (clock : List Float) :
    ∃ e, ((x.compile bots r).run clock).result = .error e ∧ ¬ e.IsIncident := by
  rw [compile_eq_work]
  cases h with
  | ladder lost =>
    obtain ⟨e, failed, escapes⟩ := lost.exists_error clock
    exact ⟨e, run_bind_eq_error.2 (Or.inl failed), escapes⟩
  | bots resolved notGiven lost =>
    subst notGiven
    have resolved := Resources.isSteady_resolveLadder _ r _ resolved clock
    obtain ⟨e, failed, escapes⟩ := lost.exists_error ((x.resources.resolveLadder r).run clock).clock
    refine ⟨e, run_bind_eq_error.2 (Or.inr ⟨_, resolved, ?_⟩), escapes⟩
    exact run_bind_eq_error.2 (Or.inl failed)
  | query resolved known unanswerable =>
    obtain ⟨f, failed⟩ := (Query.exists_ofRequest_eq_error_iff offered).2 unanswerable
    refine ⟨.query f, run_bind_eq_error.2 (Or.inr ⟨_, Resources.isSteady_resolveLadder _ r _ resolved clock, ?_⟩),
      f.name_mem.1⟩
    refine run_bind_eq_error.2 (Or.inr ⟨_, Resources.isSteady_bots _ r bots _ known _, ?_⟩)
    rw [run_work, failed]
    rfl
  | @number _ _ q n resolved known built admitted listed wide =>
    refine ⟨.wideInteger, run_bind_eq_error.2 (Or.inr ⟨_, Resources.isSteady_resolveLadder _ r _ resolved clock, ?_⟩),
      by decide⟩
    refine run_bind_eq_error.2 (Or.inr ⟨_, Resources.isSteady_bots _ r bots _ known _, ?_⟩)
    rw [run_work, built]
    have refused := (Database.execute_eq_error_iff admitted).2 ⟨rfl, n, listed, wide⟩
    show Except.mapError _ _ = _
    rw [run_answer_of_refused refused]
    rfl

end Service

/-- The registered actors with a condition on them up to a day. -/
def Json.ofRegistered (more : List (String × Json)) (endDate : String) : Json :=
  .object [("wikiId", .text "w"), ("requirements", .object (("registrationStatus", .text "registered") :: more)),
    ("endDate", .text endDate)]

/-- A store of one actor, who is registered. -/
def Store.ofNewcomer : Store where
  actors := [⟨1, "A", true, some Date.mayFifth⟩]
  counters := []
  groups := []
  templates := []

/-- The service of that store. -/
def Service.ofNewcomer : Service := { Service.small with database := ⟨"w", some Store.ofNewcomer⟩ }

lemma Store.ofNewcomer_stored : ∀ s, Service.ofNewcomer.database.store = some s →
    s.WellKeyed ∧ ∀ n ∈ s.integers, fitsWord n = true := by
  rintro _ ⟨⟩
  exact ⟨⟨by decide, by decide, by decide, by decide⟩, by decide⟩

end ActivityReport
