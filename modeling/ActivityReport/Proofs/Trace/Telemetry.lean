import ActivityReport.Proofs.Trace.Agreement

/-!
# Stages in the log

What telemetry tells of a computation. Steps that end no stage are silent (`Traced.IsSilent`), whatever else they
write to the log. A computation that goes through a chain of stages leaves one line for each stage that ended, and
its last line tells whether that stage failed (`Traced.GoesThrough`); chains follow each other
(`Traced.GoesThrough.bind`), and a timed report closes them with one line of its own (`Traced.GoesThrough.timed`).
-/

namespace ActivityReport

variable {ε δ α β : Type}

/-! ## Lines of telemetry -/

namespace LogLine

/-- Whether a line is one of telemetry. -/
def isTelemetry (l : LogLine) : Bool := "[TELEMETRY] ".toList.isPrefixOf l.text.toList

/-- The line of a stage that ended well, with the stage's name and its milliseconds. -/
def ofStage (wikiId : String) (stage : String × Float) : LogLine :=
  StageEvent.logLine .info ⟨"stage.completed", wikiId, some stage.1, some stage.2, true, []⟩

/-- The line of a stage that failed, with the name of the failure. -/
def ofFailedStage (wikiId : String) (stage : String × Float) (kind : String) : LogLine :=
  StageEvent.logLine .warning
    ⟨"stage.completed", wikiId, some stage.1, some stage.2, false, [("error_type", .text kind)]⟩

/-- The line of a report that ended well, with what it tells about its rows. -/
def ofReport (wikiId : String) (ms : Float) (rows : Option Json) : LogLine :=
  StageEvent.logLine .info
    ⟨"statistics.completed", wikiId, none, some ms, true, rows.toList.map fun n => ("rows", n)⟩

/-- The line of a report that failed, with the name of the failure. -/
def ofFailedReport (wikiId : String) (ms : Float) (kind : String) : LogLine :=
  StageEvent.logLine .warning
    ⟨"statistics.failed", wikiId, none, some ms, false, [("error_type", .text kind)]⟩

/-- The line of an event is one of telemetry. -/
lemma isTelemetry_logLine (severity : Severity) (e : StageEvent) :
    (StageEvent.logLine severity e).isTelemetry = true := by
  rw [isTelemetry, List.isPrefixOf_iff_prefix]
  show "[TELEMETRY] ".toList <+: ("[TELEMETRY] " ++ e.line).toList
  rw [String.toList_append]
  exact List.prefix_append _ _

/-- Whether a text has another mark than that of telemetry in front. -/
def IsMarked (text : String) : Prop := ∃ c, text.toList[1]? = some c ∧ c ≠ 'T'

/-- What follows a mark does not matter. -/
lemma IsMarked.append {a b : String} (h : IsMarked a) : IsMarked (a ++ b) := by
  obtain ⟨c, second, other⟩ := h
  refine ⟨c, ?_, other⟩
  rw [String.toList_append, List.getElem?_append_left (List.getElem?_eq_some_iff.1 second).1]
  exact second

/-- A line with another mark is not one of telemetry. -/
lemma isTelemetry_of_isMarked {severity : Severity} {text : String} (h : IsMarked text) :
    isTelemetry ⟨severity, text⟩ = false := by
  obtain ⟨c, second, other⟩ := h
  rw [isTelemetry, Bool.eq_false_iff]
  intro marked
  obtain ⟨rest, whole⟩ := List.isPrefixOf_iff_prefix.1 marked
  have second' : text.toList[1]? = some 'T' := by
    rw [← whole]
    rfl
  exact other (Option.some.inj (second.symm.trans second'))

end LogLine

/-- The lines of telemetry that a run leaves. -/
def Run.telemetry (run : Run ε α) : List LogLine := run.lines.filter LogLine.isTelemetry

/-- The line of an event at the end of a run is the last line of telemetry. -/
lemma Run.telemetry_of_lines {run : Run ε α} {before : Run δ β} {severity : Severity} {e : StageEvent}
    (h : run.lines = before.lines ++ [StageEvent.logLine severity e]) :
    run.telemetry = before.telemetry ++ [StageEvent.logLine severity e] := by
  unfold telemetry
  rw [h, List.filter_append, List.filter_cons_of_pos (LogLine.isTelemetry_logLine severity e)]
  rfl

namespace Traced

variable {x : Traced ε α} {f : α → Traced ε β}

/-- Three steps in a row are two in a row, whichever are taken together. -/
lemma bind_assoc {γ : Type} {g : β → Traced ε γ} : x >>= f >>= g = x >>= fun a => f a >>= g := by
  funext clock
  show Traced.bind (Traced.bind x f) g clock = Traced.bind x (fun a => Traced.bind (f a) g) clock
  unfold Traced.bind
  cases first : (x clock).result with
  | error e => simp only [first]
  | ok a =>
    cases second : (f a (x clock).clock).result <;> simp only [first, second, List.append_assoc]

/-- The stages of two steps in a row follow each other; after a failure there are no more. -/
lemma stages_bind (clock : List Float) : ((x >>= f).run clock).stages =
    match (x.run clock).result with
    | .ok a => (x.run clock).stages ++ ((f a).run (x.run clock).clock).stages
    | .error _ => (x.run clock).stages := by
  show (Traced.bind x f clock).stages = _
  unfold Traced.bind run
  cases h : (x clock).result <;> simp only [h]

/-- So do the lines of telemetry. -/
lemma telemetry_bind (clock : List Float) : ((x >>= f).run clock).telemetry =
    match (x.run clock).result with
    | .ok a => (x.run clock).telemetry ++ ((f a).run (x.run clock).clock).telemetry
    | .error _ => (x.run clock).telemetry := by
  show (Traced.bind x f clock).telemetry = _
  unfold Run.telemetry Traced.bind run
  cases h : (x clock).result <;> simp only [h, List.filter_append]

/-! ## Silence -/

/-- Whether no stage ends and no line of telemetry is left. -/
def IsSilent (x : Traced ε α) : Prop := ∀ clock, (x.run clock).stages = [] ∧ (x.run clock).telemetry = []

namespace IsSilent

lemma result (r : Except ε α) : (Traced.result r).IsSilent := fun _ => ⟨rfl, rfl⟩

lemma pure (a : α) : (Pure.pure a : Traced ε α).IsSilent := fun _ => ⟨rfl, rfl⟩

lemma fail (e : ε) : (Traced.fail e : Traced ε α).IsSilent := fun _ => ⟨rfl, rfl⟩

lemma noteLookups (keys : List (List Cell)) : (Traced.noteLookups keys : Traced ε Unit).IsSilent := fun _ => ⟨rfl, rfl⟩

lemma logAll {lines : List LogLine} (others : ∀ l ∈ lines, l.isTelemetry = false) :
    (Traced.logAll lines : Traced ε Unit).IsSilent :=
  fun _ => ⟨rfl, List.filter_eq_nil_iff.2 fun l listed => by rw [others l listed]; exact Bool.false_ne_true⟩

lemma log {severity : Severity} {text : String} (marked : LogLine.IsMarked text) :
    (Traced.log severity text : Traced ε Unit).IsSilent :=
  logAll fun l listed => by
    rw [List.mem_singleton.1 listed]
    exact LogLine.isTelemetry_of_isMarked marked

/-- Two silent steps in a row are silent. -/
lemma bind (h : x.IsSilent) (next : ∀ a, (f a).IsSilent) : (x >>= f).IsSilent := by
  intro clock
  obtain ⟨noStages, noLines⟩ := h clock
  rw [stages_bind, telemetry_bind]
  cases (x.run clock).result with
  | error e => exact ⟨noStages, noLines⟩
  | ok a =>
    obtain ⟨noStages', noLines'⟩ := next a (x.run clock).clock
    simp only [noStages, noStages', noLines, noLines', List.append_nil, and_self]

/-- After a silent step there is only what follows. -/
lemma before (silent : x.IsSilent) (clock : List Float) {a : α} (comes : (x.run clock).result = .ok a) :
    ((x >>= f).run clock).stages = ((f a).run (x.run clock).clock).stages ∧
      ((x >>= f).run clock).telemetry = ((f a).run (x.run clock).clock).telemetry ∧
      ((x >>= f).run clock).result = ((f a).run (x.run clock).clock).result := by
  rw [stages_bind, telemetry_bind, run_bind, comes, (silent clock).1, (silent clock).2]
  exact ⟨rfl, rfl, rfl⟩

/-- After a silent step that fails there is nothing. -/
lemma before_failed (silent : x.IsSilent) (clock : List Float) {e : ε} (fails : (x.run clock).result = .error e) :
    ((x >>= f).run clock).stages = [] ∧ ((x >>= f).run clock).telemetry = [] ∧
      ((x >>= f).run clock).result = .error e := by
  rw [stages_bind, telemetry_bind, run_bind, fails, (silent clock).1, (silent clock).2]
  exact ⟨rfl, rfl, rfl⟩

/-- Silent steps add nothing to what came first. -/
lemma after (silent : ∀ a, (f a).IsSilent) (clock : List Float) :
    ((x >>= f).run clock).stages = (x.run clock).stages ∧
      ((x >>= f).run clock).telemetry = (x.run clock).telemetry := by
  rw [stages_bind, telemetry_bind]
  cases (x.run clock).result with
  | error e => exact ⟨rfl, rfl⟩
  | ok a =>
    obtain ⟨noStages, noLines⟩ := silent a (x.run clock).clock
    simp only [noStages, noLines, List.append_nil, and_self]

lemma ite_bind {c : Prop} [Decidable c] {y : Traced ε Unit} {f : Unit → Traced ε α} (h : y.IsSilent)
    (next : (f ()).IsSilent) : (if c then y >>= f else f ()).IsSilent := by
  split
  · exact h.bind fun _ => next
  · exact next

end IsSilent

/-! ## Chains of stages -/

/-- A stage adds its milliseconds and its line to what its body leaves. -/
lemma telemetry_stage {names : FailureNames ε} (noInterruption : ∀ e, names.interrupts e = false)
    (wikiId name : String) (x : Traced ε α) (clock : List Float) :
    ∃ ms, ((stage names wikiId name x).run clock).stages = (x.run clock.tail).stages ++ [(name, ms)] ∧
      ((stage names wikiId name x).run clock).telemetry = (x.run clock.tail).telemetry ++
        match (x.run clock.tail).result with
        | .ok _ => [.ofStage wikiId (name, ms)]
        | .error e => [.ofFailedStage wikiId (name, ms) (names.name e)] := by
  refine ⟨milliseconds (clock.headD 0) ((x.run clock.tail).clock.headD 0), ?_⟩
  unfold Traced.stage run
  simp only [Bind.bind, Traced.bind, tick, attempt]
  cases result : (x clock.tail).result with
  | ok a => exact ⟨rfl, Run.telemetry_of_lines rfl⟩
  | error e =>
    simp only [noInterruption]
    exact ⟨rfl, Run.telemetry_of_lines rfl⟩

/-- What a run through a chain of stages notes, tells and comes to: every stage that ended well has a line; when the
run fails, its last stage has a line with the failure that was raised in it. -/
inductive Passage (names : FailureNames ε) (wikiId : String) (chain : List String) (Raises : ε → ε → Prop) :
    List (String × Float) → List LogLine → Except ε α → Prop where
  | completed {stages : List (String × Float)} {a : α} (all : stages.map Prod.fst = chain) :
    Passage names wikiId chain Raises stages (stages.map (.ofStage wikiId)) (.ok a)
  | failed {stages : List (String × Float)} {last : String × Float} {raised e : ε}
      (first : (stages ++ [last]).map Prod.fst <+: chain) (raises : Raises raised e) :
    Passage names wikiId chain Raises (stages ++ [last])
      (stages.map (.ofStage wikiId) ++ [.ofFailedStage wikiId last (names.name raised)]) (.error e)

/-- A failure that becomes another one afterwards leaves the lines as they are. -/
lemma Passage.mapError {names : FailureNames ε} {wikiId : String} {chain : List String} {Raises Raises' : ε → ε → Prop}
    {stages : List (String × Float)} {lines : List LogLine} {result : Except ε α} {becomes : ε → ε}
    (h : Passage names wikiId chain Raises stages lines result) (wider : ∀ raised e, Raises raised e →
      Raises' raised (becomes e)) : Passage names wikiId chain Raises' stages lines (result.mapError becomes) := by
  cases h with
  | completed all => exact .completed all
  | failed first raises => exact .failed first (wider _ _ raises)

/-- Whether each run goes through a chain of stages, up to the one that fails. -/
def GoesThrough (x : Traced ε α) (names : FailureNames ε) (wikiId : String) (chain : List String)
    (Raises : ε → ε → Prop) : Prop :=
  ∀ clock, Passage names wikiId chain Raises (x.run clock).stages (x.run clock).telemetry (x.run clock).result

namespace GoesThrough

variable {names : FailureNames ε} {wikiId name : String} {chain chain' : List String} {Raises : ε → ε → Prop}

/-- A value goes through no stage. -/
lemma pure (a : α) : (Pure.pure a : Traced ε α).GoesThrough names wikiId [] Raises := fun _ => .completed rfl

/-- A stage with a silent body goes through itself. -/
lemma stage (silent : x.IsSilent) (noInterruption : ∀ e, names.interrupts e = false)
    (fails : x.FailsOnly fun e => Raises e e) :
    (Traced.stage names wikiId name x).GoesThrough names wikiId [name] Raises := by
  intro clock
  obtain ⟨ms, noted, told⟩ := telemetry_stage noInterruption wikiId name x clock
  rw [noted, told, (run_stage clock).1, (silent _).1, (silent _).2]
  cases result : (x.run clock.tail).result with
  | ok a => exact .completed rfl
  | error e =>
    exact .failed (List.prefix_refl _) (fails _ e result)

/-- Chains follow each other. -/
lemma bind (h : x.GoesThrough names wikiId chain Raises)
    (next : ∀ a, x.ComesTo a → (f a).GoesThrough names wikiId chain' Raises) :
    (x >>= f).GoesThrough names wikiId (chain ++ chain') Raises := by
  intro clock
  have first := h clock
  rw [stages_bind, telemetry_bind, run_bind]
  cases result : (x.run clock).result with
  | error e =>
    rw [result] at first
    generalize (x.run clock).stages = stages, (x.run clock).telemetry = lines at first ⊢
    cases first with
    | failed first raises => exact .failed (first.trans (List.prefix_append _ _)) raises
  | ok a =>
    have second := next a ⟨clock, result⟩ (x.run clock).clock
    rw [result] at first
    show Passage names wikiId (chain ++ chain') Raises (_ ++ ((f a).run _).stages) (_ ++ ((f a).run _).telemetry)
      ((f a).run _).result
    generalize (x.run clock).stages = stages, (x.run clock).telemetry = lines at first ⊢
    generalize ((f a).run (x.run clock).clock).stages = stages', ((f a).run (x.run clock).clock).telemetry = lines',
      ((f a).run (x.run clock).clock).result = result' at second ⊢
    cases first with
    | completed all =>
      cases second with
      | completed all' =>
        rw [← List.map_append]
        exact .completed (by rw [List.map_append, all, all'])
      | failed first raises =>
        rw [← List.append_assoc, ← List.append_assoc, ← List.map_append]
        refine .failed ?_ raises
        rw [List.append_assoc, List.map_append, all]
        exact (List.prefix_append_right_inj chain).2 first

end GoesThrough

/-! ## Timed reports -/

/-- What a timed run through a chain of stages notes, tells and comes to. Either all stages end well: then each has a
line, and the whole has one with what it tells about its rows. Or a failure is raised in a stage: then each stage
before has a line, that stage has one with the failure, and the whole has one with the failure that leaves. -/
inductive Account (names : FailureNames ε) (wikiId : String) (rows : α → Option Json) (chain : List String)
    (Raises : ε → ε → Prop) : List (String × Float) → List LogLine → Except ε α → Prop where
  | completed {stages : List (String × Float)} {ms : Float} {a : α} (all : stages.map Prod.fst = chain) :
    Account names wikiId rows chain Raises stages
      (stages.map (.ofStage wikiId) ++ [.ofReport wikiId ms (rows a)]) (.ok a)
  | failed {stages : List (String × Float)} {last : String × Float} {ms : Float} {raised e : ε}
      (first : (stages ++ [last]).map Prod.fst <+: chain) (raises : Raises raised e) :
    Account names wikiId rows chain Raises (stages ++ [last])
      (stages.map (.ofStage wikiId) ++
        [.ofFailedStage wikiId last (names.name raised), .ofFailedReport wikiId ms (names.name e)]) (.error e)

/-- A timed report adds its line to what its body leaves. -/
lemma telemetry_timed (names : FailureNames ε) (wikiId : String) (rows : α → Option Json) (x : Traced ε α)
    (clock : List Float) :
    ((timed names wikiId rows x).run clock).stages = (x.run clock.tail).stages ∧
      ∃ ms, ((timed names wikiId rows x).run clock).telemetry = (x.run clock.tail).telemetry ++
        match (x.run clock.tail).result with
        | .ok a => [.ofReport wikiId ms (rows a)]
        | .error e => [.ofFailedReport wikiId ms (names.name e)] := by
  unfold Traced.timed run
  simp only [Bind.bind, Traced.bind, tick, attempt]
  cases result : (x clock.tail).result with
  | ok a => exact ⟨List.append_nil _, _, Run.telemetry_of_lines rfl⟩
  | error e => exact ⟨List.append_nil _, _, Run.telemetry_of_lines rfl⟩

/-- A timed report gives an account of the stages that its body goes through. -/
lemma GoesThrough.timed {names : FailureNames ε} {wikiId : String} {chain : List String} {Raises : ε → ε → Prop}
    (h : x.GoesThrough names wikiId chain Raises) (rows : α → Option Json) (clock : List Float) :
    Account names wikiId rows chain Raises ((Traced.timed names wikiId rows x).run clock).stages
      ((Traced.timed names wikiId rows x).run clock).telemetry
      ((Traced.timed names wikiId rows x).run clock).result := by
  obtain ⟨noted, ms, told⟩ := telemetry_timed names wikiId rows x clock
  have passage := h clock.tail
  rw [noted, told, run_timed]
  generalize (x.run clock.tail).stages = stages, (x.run clock.tail).telemetry = lines,
    (x.run clock.tail).result = result at passage ⊢
  cases passage with
  | completed all => exact .completed all
  | failed first raises =>
    rw [List.append_assoc]
    exact .failed first raises

end Traced

end ActivityReport
