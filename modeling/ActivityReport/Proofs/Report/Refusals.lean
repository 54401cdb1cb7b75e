import ActivityReport.Proofs.Report.Answer
import ActivityReport.Proofs.Trace.Agreement

/-!
# Refusals

A database refuses a query before anything is done with its rows: what comes after has failures of other kinds. So
a refusal in an answer is the one of the query (`Service.execute_of_answer`), and a query that can be joined and stays
within the limits is refused only where the database has no tables of the wiki (`Database.tablesOf_of_execute`).
-/

namespace ActivityReport

open Traced (FailsOnly)

/-- Whether a failure is neither a refusal by the database nor an incident, which a refusal becomes. -/
def Failure.IsOwn (e : Failure) : Prop := (∀ f, e ≠ .database f) ∧ ∀ i, e ≠ .incident i

/-- Renamed failures are of the kind that they are renamed to. -/
lemma isOwn_of_mapError {ε α : Type} {y : Except ε α} {rename : ε → Failure} (own : ∀ e, (rename e).IsOwn) :
    ∀ e, y.mapError rename = .error e → e.IsOwn := by
  intro e failed
  cases y with
  | ok a => cases failed
  | error e' =>
    rw [← Except.error.inj failed]
    exact own e'

namespace Layout

variable {l : Layout} {r : Request} {rules : NumberingRules} {groups : GroupSource}

lemma levelled_failsOnly (raw : List SourceRow) : FailsOnly Failure.IsOwn (l.levelled r raw) := by
  have worked : FailsOnly Failure.IsOwn (Traced.result ((l.withLevels raw).mapError .level)) :=
    .result (isOwn_of_mapError fun _ => ⟨nofun, nofun⟩)
  unfold levelled
  refine FailsOnly.ite_bind (.logAll _) (worked.bind fun rows => ?_)
  dsimp only
  split
  · exact (FailsOnly.logAll _).bind fun _ => .pure _
  · exact .pure _

lemma refuseKey_failsOnly (fault : Option Cell.KeyFault) : FailsOnly Failure.IsOwn (refuseKey fault) := by
  cases fault with
  | none => exact .pure _
  | some f => exact .fail ⟨nofun, nofun⟩

lemma note_failsOnly (asked : List (List Cell)) : FailsOnly Failure.IsOwn (groups.note asked) :=
  (FailsOnly.noteLookups _).bind fun _ => .logAll _

lemma ordered_failsOnly (rows : List ReportRow) : FailsOnly Failure.IsOwn (l.ordered r groups rows) := by
  have sorted : ∀ rows : List ReportRow,
      FailsOnly Failure.IsOwn (Traced.result ((sortRows r.sortKeys rows).mapError .order)) :=
    fun rows => .result (isOwn_of_mapError fun _ => ⟨nofun, nofun⟩)
  unfold ordered
  dsimp only
  split
  · refine (note_failsOnly _).bind fun _ => (refuseKey_failsOnly _).bind fun _ => (FailsOnly.logAll _).bind fun _ => ?_
    exact (sorted _).bind fun _ => .pure _
  · exact (FailsOnly.logAll _).bind fun _ => (sorted _).bind fun _ => .pure _

lemma apply_failsOnly (known : List GroupedRow) (rest : List ReportRow) :
    FailsOnly Failure.IsOwn (rules.apply groups known rest) := by
  unfold NumberingRules.apply
  refine (refuseKey_failsOnly _).bind fun _ => ?_
  dsimp only
  split
  · exact (note_failsOnly _).bind fun _ => .fail ⟨nofun, nofun⟩
  · exact (note_failsOnly _).bind fun _ => FailsOnly.ite_bind (.fail ⟨nofun, nofun⟩) (.pure _)

lemma report_failsOnly (raw : List SourceRow) : FailsOnly Failure.IsOwn (l.report r rules groups raw) := by
  unfold report
  refine (levelled_failsOnly raw).bind fun rows => ?_
  refine FailsOnly.ite_bind (.fail ⟨nofun, nofun⟩) ?_
  refine (ordered_failsOnly _).bind fun sorted => (apply_failsOnly _ _).bind fun finished => ?_
  refine (FailsOnly.logAll _).bind fun _ => ?_
  exact FailsOnly.ite_bind (.fail ⟨nofun, nofun⟩) (.pure _)

end Layout

namespace Service

variable {x : Service} {r : Request} {q : Query}

/-- What fails while a query is run is the query itself, or the work on its rows. -/
lemma execute_failsOnly (x : Service) (r : Request) (q : Query) (layout : Layout) :
    FailsOnly (fun e => e.IsOwn ∨ x.database.execute (x.settings.naming r.wikiId) q = .error e)
      (x.execute r q layout) := by
  unfold execute
  refine (FailsOnly.logAll _).bind fun _ => (FailsOnly.result fun _ => Or.inr).bind fun rows => ?_
  split
  · exact (FailsOnly.logAll _).bind fun _ => .pure _
  · refine (FailsOnly.logAll _).bind fun _ => ?_
    dsimp only
    split
    · have listed : FailsOnly Failure.IsOwn (layout.actorIds r (rows.map RawRow.source)) :=
        (Layout.levelled_failsOnly _).bind fun _ => .pure _
      exact (listed.mono fun _ => Or.inl).bind fun _ => .pure _
    · exact .pure _

/-- A refusal in an answer is that of the query. -/
lemma execute_of_answer {ladder : Option Ladder} {bots : List String} {clock : List Float} {f : Refusal}
    (refused : ((x.answer r q ladder bots).run clock).result = .error (.database f)) :
    x.database.execute (x.settings.naming r.wikiId) q = .error (.database f) := by
  have fails : FailsOnly (fun e => e.IsOwn ∨ x.database.execute (x.settings.naming r.wikiId) q = .error e)
      (x.answer r q ladder bots) := by
    refine (execute_failsOnly x r q _).stage.bind fun result => ?_
    cases result with
    | inr ids => exact .pure _
    | inl rows => exact ((Layout.report_failsOnly rows).mono fun _ => Or.inl).stage.bind fun _ => .pure _
  rcases fails clock _ refused with own | same
  · exact absurd rfl (own.1 f)
  · exact same

end Service

/-- A query that can be joined and stays within the limits is refused only where there are no tables for it. -/
lemma Database.tablesOf_of_execute {db : Database} {n : Naming} {q : Query} {f : Refusal}
    (taken : (q.plan.isJoinable n.actorTable && q.isWithinLimits) = true)
    (refused : db.execute n q = .error (.database f)) : db.tablesOf n = .error (.database f) := by
  unfold execute at refused
  cases tables : db.tablesOf n with
  | error e =>
    rw [tables] at refused
    have same : (Except.error e : Except Failure (List RawRow)) = .error (.database f) := refused
    rw [Except.error.inj same]
  | ok s =>
    rw [tables] at refused
    replace refused : (if !(q.plan.isJoinable n.actorTable && q.isWithinLimits) then _ else _) =
      Except.error (Failure.database f) := refused
    rw [taken] at refused
    have fits : (checkIntegers q.parameters >>= fun _ => (.ok (q.rows s n.actorTable) : Except Failure (List RawRow))) =
      .error (.database f) := refused
    unfold checkIntegers at fits
    split at fits <;> cases fits

end ActivityReport
