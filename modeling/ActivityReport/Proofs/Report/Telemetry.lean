import ActivityReport.Proofs.Report.Comparison
import ActivityReport.Proofs.Report.Escapes
import ActivityReport.Proofs.Trace.Telemetry

/-!
# Telemetry of a report

What telemetry tells of the work on a request. The stages of a request with columns are five, of one without columns
four (`Request.stages`). What is done within a stage is silent, and so is what is done before the clock is started.
So a run leaves one line for each stage that ended and one for the whole, in order, whichever way it ends
(`Service.told_of_compile`).
-/

namespace ActivityReport

open LogLine (IsMarked)
open Traced (IsSilent GoesThrough)

/-! ## Silence within stages -/

lemma JoinPlan.isMarked_summary (p : JoinPlan) (wikiId : String) : IsMarked (p.summary wikiId) := by
  unfold summary
  repeat apply IsMarked.append
  exact ⟨'A', by decide, by decide⟩

lemma JoinPlan.isMarked_joinSummary (p : JoinPlan) (wikiId : String) : IsMarked (p.joinSummary wikiId) := by
  unfold joinSummary
  repeat apply IsMarked.append
  exact ⟨'P', by decide, by decide⟩

lemma Query.isMarked_summary (q : Query) (wikiId : String) : IsMarked (q.summary wikiId) := by
  unfold summary
  repeat apply IsMarked.append
  exact ⟨'G', by decide, by decide⟩

lemma Request.isMarked_summary (r : Request) : IsMarked r.summary := by
  unfold summary
  repeat apply IsMarked.append
  exact ⟨'S', by decide, by decide⟩

lemma isSilent_refuseKey (fault : Option Cell.KeyFault) : (refuseKey fault).IsSilent := by
  cases fault <;> exact .result _

/-- Whether what a source of groups leaves in the log is no telemetry. -/
def GroupSource.IsSilent (groups : GroupSource) : Prop := ∀ ids, ∀ l ∈ groups.lines ids, l.isTelemetry = false

namespace GroupSource

variable {groups : GroupSource}

lemma IsSilent.note (silent : groups.IsSilent) (asked : List (List Cell)) : (groups.note asked).IsSilent := by
  refine Traced.IsSilent.bind (.noteLookups _) fun _ => .logAll fun l listed => ?_
  obtain ⟨ids, -, own⟩ := List.mem_flatMap.1 listed
  exact silent ids l own

end GroupSource

/-- The groups of a store are looked up without telemetry. -/
lemma Service.isSilent_groupSource (s : Store) : (groupSource s).IsSilent := by
  intro ids l listed
  rw [List.mem_singleton.1 listed]
  refine LogLine.isTelemetry_of_isMarked ?_
  repeat apply IsMarked.append
  exact ⟨'E', by decide, by decide⟩

lemma NumberingRules.isSilent_apply {groups : GroupSource} (silent : groups.IsSilent) (rules : NumberingRules)
    (known : List GroupedRow) (rest : List ReportRow) : (rules.apply groups known rest).IsSilent := by
  unfold apply
  refine (isSilent_refuseKey _).bind fun _ => ?_
  dsimp only
  generalize rules.keyFault? 0 _ _ = fault
  cases fault with
  | some made => exact (silent.note _).bind fun _ => .fail _
  | none => exact (silent.note _).bind fun _ => IsSilent.ite_bind (.fail _) (.pure _)

namespace Layout

variable {groups : GroupSource}

lemma isSilent_levelled (l : Layout) (r : Request) (raw : List SourceRow) : (l.levelled r raw).IsSilent := by
  refine IsSilent.ite_bind (.log ?_) (IsSilent.bind (.result _) fun rows => ?_)
  · repeat apply IsMarked.append
    exact ⟨'L', by decide, by decide⟩
  · split
    · refine IsSilent.bind (.log ?_) fun _ => .pure _
      repeat apply IsMarked.append
      exact ⟨'P', by decide, by decide⟩
    · exact .pure _

lemma isSilent_ordered (silent : groups.IsSilent) (l : Layout) (r : Request) (rows : List ReportRow) :
    (l.ordered r groups rows).IsSilent := by
  have warnings : (Traced.logAll (r.unknownKeys.map fun id =>
      (⟨.warning, s!"[POSTPROCESS] orderBy references unknown column '{id}', ignored"⟩ : LogLine)) :
        Traced Failure Unit).IsSilent := by
    refine .logAll fun l listed => ?_
    obtain ⟨id, -, rfl⟩ := List.mem_map.1 listed
    refine LogLine.isTelemetry_of_isMarked ?_
    repeat apply IsMarked.append
    exact ⟨'P', by decide, by decide⟩
  unfold ordered
  split
  · exact (silent.note _).bind fun _ => (isSilent_refuseKey _).bind fun _ => warnings.bind fun _ =>
      IsSilent.bind (.result _) fun _ => .pure _
  · exact warnings.bind fun _ => IsSilent.bind (.result _) fun _ => .pure _

lemma isSilent_report (silent : groups.IsSilent) (l : Layout) (r : Request) (rules : NumberingRules)
    (raw : List SourceRow) : (l.report r rules groups raw).IsSilent := by
  unfold report
  refine (isSilent_levelled l r raw).bind fun rows => IsSilent.ite_bind (.fail _) ?_
  refine (isSilent_ordered silent l r _).bind fun ordered => ?_
  refine (NumberingRules.isSilent_apply silent rules _ _).bind fun finished => ?_
  refine IsSilent.bind (.log ?_) fun _ => IsSilent.ite_bind (.fail _) (.pure _)
  repeat apply IsMarked.append
  exact ⟨'P', by decide, by decide⟩

end Layout

namespace Resources

lemma isSilent_readLadder (r : Resources) (wikiId : String) : (r.readLadder wikiId).IsSilent := by
  unfold readLadder contents?
  refine IsSilent.bind (.result _) fun contents => ?_
  cases contents with
  | none =>
    refine IsSilent.bind (.log ?_) fun _ => .pure _
    repeat apply IsMarked.append
    exact ⟨'C', by decide, by decide⟩
  | some bytes =>
    refine IsSilent.bind (.result _) fun ladder => IsSilent.bind (.log ?_) fun _ => .pure _
    repeat apply IsMarked.append
    exact ⟨'C', by decide, by decide⟩

lemma isSilent_resolveLadder (r : Resources) (q : Request) : (r.resolveLadder q).IsSilent := by
  unfold resolveLadder
  split
  · exact .pure _
  split
  · exact .pure _
  refine (isSilent_readLadder r q.wikiId).bind fun ladder => ?_
  cases ladder with
  | none =>
    refine IsSilent.bind (.log ?_) fun _ => .pure _
    repeat apply IsMarked.append
    exact ⟨'S', by decide, by decide⟩
  | some ladder => exact .pure _

lemma isSilent_readKnownWikis (r : Resources) : r.readKnownWikis.IsSilent := by
  unfold readKnownWikis contents?
  refine IsSilent.bind (.result _) fun contents => ?_
  cases contents with
  | none => exact .fail _
  | some bytes =>
    refine IsSilent.bind (.result _) fun wikis => IsSilent.bind (.log ?_) fun _ => .pure _
    repeat apply IsMarked.append
    exact ⟨'C', by decide, by decide⟩

lemma isSilent_resolveFlaglessBots (r : Resources) (q : Request) : (r.resolveFlaglessBots q).IsSilent := by
  unfold resolveFlaglessBots contents?
  split
  · exact .pure _
  refine IsSilent.bind (.result _) fun contents => ?_
  split
  · refine IsSilent.bind (.log ?_) fun _ => .pure _
    repeat apply IsMarked.append
    exact ⟨'S', by decide, by decide⟩
  refine IsSilent.bind (IsSilent.bind (isSilent_readKnownWikis r) fun _ => .pure _) fun wiki => ?_
  cases wiki with
  | none =>
    refine IsSilent.bind (.log ?_) fun _ => .pure _
    repeat apply IsMarked.append
    exact ⟨'S', by decide, by decide⟩
  | some wiki => exact .pure _

end Resources

namespace Service

variable {x : Service} {r : Request} {q : Query}

lemma isSilent_execute (x : Service) (r : Request) (q : Query) (layout : Layout) :
    (x.execute r q layout).IsSilent := by
  unfold execute
  refine IsSilent.bind (.log ⟨'E', by decide, by decide⟩) fun _ => IsSilent.bind (.result _) fun rows => ?_
  split
  · refine IsSilent.bind (.log ?_) fun _ => .pure _
    repeat apply IsMarked.append
    exact ⟨'E', by decide, by decide⟩
  refine IsSilent.bind (.log ?_) fun _ => ?_
  · repeat apply IsMarked.append
    exact ⟨'E', by decide, by decide⟩
  dsimp only
  split
  · exact IsSilent.bind (IsSilent.bind (Layout.isSilent_levelled _ _ _) fun _ => .pure _) fun _ => .pure _
  · exact .pure _

/-- Rows are left to work up exactly when columns are asked for. -/
lemma isLeft_of_execute {layout : Layout} {found : List SourceRow ⊕ List Int}
    (h : (x.execute r q layout).ComesTo found) : found.isLeft = !r.columns.isEmpty := by
  obtain ⟨_, -, h⟩ := h.bind
  obtain ⟨rows, -, h⟩ := h.bind
  split at h
  · rename_i plain
    obtain ⟨_, -, h⟩ := h.bind
    rw [← Traced.comesTo_pure.1 h, (Bool.and_eq_true_iff.1 plain).1]
    rfl
  · obtain ⟨_, -, h⟩ := h.bind
    dsimp only at h
    split at h
    · rename_i columns
      obtain ⟨ids, -, h⟩ := h.bind
      rw [← Traced.comesTo_pure.1 h, columns]
      rfl
    · rename_i columns
      rw [← Traced.comesTo_pure.1 h, Bool.eq_false_iff.2 columns]
      rfl

end Service

/-! ## Chains of stages -/

/-- The stages of the work on a request, in order; only rows are worked up. -/
def Request.stages (r : Request) : List String :=
  ["analyze", "plan", "generate", "execute", "postprocess"].take (if r.columns.isEmpty then 4 else 5)

namespace Service

variable {x : Service} {r : Request} {q : Query} {ladder : Option Ladder} {bots : List String}

/-- What leaves the work on a request when a failure is raised in one of its stages: a refusal by the database leaves
as an incident, which is raised nowhere else, and every other failure as it is. -/
inductive Raises (r : Request) : Failure → Failure → Prop where
  | asIs {e : Failure} (own : e.IsOwn) : Raises r e e
  | refused {q : Query} (f : Refusal) (built : Query.ofRequest r = .ok q) :
    Raises r (.database f) (.incident (queryIncident r q f))

lemma raises_guarded (built : Query.ofRequest r = .ok q) {e : Failure} (raised : ∀ i, e ≠ .incident i) :
    Raises r e (guarded r q e) := by
  cases e with
  | database f => exact .refused f built
  | incident i => exact absurd rfl (raised i)
  | _ => exact .asIs ⟨nofun, nofun⟩

/-- A database fails to run a query by a refusal or for a number, not by an incident. -/
lemma ne_incident_of_execute {db : Database} {n : Naming} {e : Failure} (failed : db.execute n q = .error e) :
    ∀ i, e ≠ .incident i := by
  by_cases admitted : db.Admits n q
  · obtain ⟨rfl, -⟩ := (Database.execute_eq_error_iff admitted).1 failed
    exact nofun
  · obtain ⟨f, refused⟩ := Database.exists_refusal_of_not_admits admitted
    rw [refused] at failed
    cases failed
    exact nofun

/-- What fails in the query fails as it is. -/
lemma raises_query {δ α : Type} {y : Except δ α} (fault : δ → QueryFault) (e : Failure)
    (h : y.mapError (fun f => Failure.query (fault f)) = .error e) : Raises r e e := by
  obtain ⟨f, -, rfl⟩ := mapError_eq_error.1 h
  exact .asIs ⟨nofun, nofun⟩

lemma prepare_goesThrough (r : Request) :
    (prepare r).GoesThrough Failure.names r.wikiId (["analyze"] ++ (["plan"] ++ ["generate"])) (Raises r) := by
  unfold prepare
  refine .bind (.stage ?_ (fun _ => rfl) ?_) fun p _ =>
    .bind (.stage ?_ (fun _ => rfl) ?_) fun _ _ => .stage ?_ (fun _ => rfl) ?_
  · exact IsSilent.bind (.result _) fun p => IsSilent.bind (.log (p.isMarked_summary _)) fun _ => .pure _
  · exact .bind (.result (raises_query QueryFault.day)) fun p => .bind (.logAll _) fun _ => .pure _
  · exact .log (p.isMarked_joinSummary _)
  · exact .logAll _
  · exact IsSilent.bind (.result _) fun q => IsSilent.bind (.log (q.isMarked_summary _)) fun _ => .pure _
  · exact .bind (.result (raises_query id)) fun q => .bind (.logAll _) fun _ => .pure _

lemma answer_goesThrough (x : Service) (r : Request) (q : Query) (ladder : Option Ladder) (bots : List String) :
    (x.answer r q ladder bots).GoesThrough Failure.names r.wikiId
      (["execute"] ++ if r.columns.isEmpty then [] else ["postprocess"])
      (fun raised e => raised = e ∧ ∀ i, e ≠ .incident i) := by
  have noInterruption : ∀ e, Failure.names.interrupts e = false := fun _ => rfl
  refine .bind (.stage (isSilent_execute x r q _) noInterruption ?_) fun found comes => ?_
  · exact (execute_failsOnly x r q _).mono fun e failed => ⟨rfl, failed.elim And.right ne_incident_of_execute⟩
  have left := isLeft_of_execute comes.stage
  cases found with
  | inr ids =>
    rw [if_pos (by rw [← Bool.not_eq_false', ← left]; rfl)]
    exact .pure _
  | inl rows =>
    rw [if_neg (by rw [Bool.not_eq_true, ← Bool.not_eq_true', ← left]; rfl)]
    rw [← List.append_nil ["postprocess"]]
    refine .bind (.stage ?_ noInterruption ?_) fun _ _ => .pure _
    · exact Layout.isSilent_report (isSilent_groupSource _) _ _ _ _
    · exact (Layout.report_failsOnly rows).mono fun e own => ⟨rfl, own.2⟩

lemma guardedAnswer_goesThrough (x : Service) (built : Query.ofRequest r = .ok q) (ladder : Option Ladder)
    (bots : List String) :
    (x.guardedAnswer r q ladder bots).GoesThrough Failure.names r.wikiId
      (["execute"] ++ if r.columns.isEmpty then [] else ["postprocess"]) (Raises r) := by
  intro clock
  -- a refusal is told to the log, but not by telemetry
  have noted : ((x.guardedAnswer r q ladder bots).run clock).stages = ((x.answer r q ladder bots).run clock).stages ∧
      ((x.guardedAnswer r q ladder bots).run clock).telemetry =
        ((x.answer r q ladder bots).run clock).telemetry := by
    refine IsSilent.after (x := Traced.attempt (x.answer r q ladder bots)) (fun result => ?_) clock
    split
    · exact .pure _
    · refine IsSilent.bind (.log ?_) fun _ => .fail _
      repeat apply IsMarked.append
      exact ⟨'S', by decide, by decide⟩
    · exact .fail _
  rw [noted.1, noted.2, run_guardedAnswer]
  refine (answer_goesThrough x r q ladder bots clock).mapError ?_
  rintro raised _ ⟨rfl, own⟩
  exact raises_guarded built own

/-! ## The whole report -/

/-- What telemetry tells of the work on a request: the account of its stages, with the number of rows. -/
def Told (r : Request) : List (String × Float) → List LogLine → Except Failure Answer → Prop :=
  Traced.Account Failure.names r.wikiId (fun answer => some (.int answer.size)) r.stages (Raises r)

lemma told_of_work (x : Service) (r : Request) (ladder : Option Ladder) (bots : List String) (clock : List Float) :
    Told r ((x.work r ladder bots).run clock).stages ((x.work r ladder bots).run clock).telemetry
      ((x.work r ladder bots).run clock).result := by
  have chain : (prepare r >>= fun q => x.guardedAnswer r q ladder bots).GoesThrough Failure.names r.wikiId r.stages
      (Raises r) := by
    have built : ∀ q, (prepare r).ComesTo q → Query.ofRequest r = .ok q := by
      rintro q ⟨clock, prepared⟩
      rw [(run_prepare r clock).1] at prepared
      exact mapError_eq_ok.1 prepared
    have both := (prepare_goesThrough r).bind fun q prepared =>
      guardedAnswer_goesThrough x (built q prepared) ladder bots
    unfold Request.stages
    split at both <;> rename_i columns
    · rw [if_pos columns]
      exact both
    · rw [if_neg columns]
      exact both
  obtain ⟨stages, told, result⟩ := (IsSilent.log r.isMarked_summary).before clock rfl
  unfold work
  rw [stages, told, result]
  exact chain.timed _ _

/-- What is resolved before the work on a request is timed: its ladder, and the bots when they are not given. -/
def resolved (x : Service) (bots : Option (List String)) (r : Request) :
    Traced Failure (Option Ladder × List String) := do
  let ladder ← x.resources.resolveLadder r
  return (ladder, ← bots.elim (x.resources.resolveFlaglessBots r) pure)

lemma isSilent_resolved (x : Service) (bots : Option (List String)) (r : Request) : (x.resolved bots r).IsSilent := by
  refine (x.resources.isSilent_resolveLadder r).bind fun ladder => IsSilent.bind ?_ fun _ => .pure _
  cases bots with
  | none => exact x.resources.isSilent_resolveFlaglessBots r
  | some list => exact .pure list

end Service

end ActivityReport
