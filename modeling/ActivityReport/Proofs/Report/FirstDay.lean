import ActivityReport.Proofs.Plan.Timeless
import ActivityReport.Proofs.Report.Comparison
import ActivityReport.Proofs.Report.Counters

/-!
# Reports that do not look at the first day

Columns and conditions that do not mention the period of the window look at its last day only. The plan and the
query of a request of such columns and conditions are those of the request without a first day, and its rows are
worked up in the same way. So the result is the same with whatever first day (`Service.compile_withStart`).
-/

namespace ActivityReport

open Traced (Agree)

/-! ## What mentions the period -/

/-- Whether the values of a column type are about the period of the window: those over the period, the level at
its start or what became of that level, and the milestones that were reached in it. -/
def ColumnType.mentionsPeriod : ColumnType → Bool
  | .count _ span _ _ | .averagePerDay _ span => span == .inPeriod
  | .level moment => moment == .start || moment == .finishWithChange
  | .milestone _ => true
  | .rowNumber | .userName | .userGroups => false
  | .logDate _ | .activityDate _ _ | .activityDays _ | .registrationDate | .daysSinceRegistration => false

/-- Whether a condition is about the period of the window: about milestones reached in it, about a level that
changed, or measured at its start. -/
def Condition.mentionsPeriod : Condition → Bool
  | .threshold t => t.epoch == some .startOfPeriod
  | .milestone _ _ => true
  | .level changed _ => changed
  | .registrationStatus _ | .registrationAge _ _ => false
  | .inGroups _ | .notInGroups _ | .hasTemplates _ | .hasNoTemplates _ => false

/-- Whether nothing in a request is about the period of its window. -/
structure Request.LeavesOutPeriod (r : Request) : Prop where
  columns : ∀ c ∈ r.columns, c.type.mentionsPeriod = false
  conditions : ∀ c ∈ r.conditions, c.mentionsPeriod = false

/-- The request with another first day of its window, or without one. -/
def Request.withStart (r : Request) (start : Option Date) (ordered : ∀ first ∈ start, first ≤ r.window.finish) :
    Request :=
  { r with window := ⟨start, r.window.finish⟩, ordered := ordered }

/-- Only the first day is changed. -/
lemma Request.withoutStart_withStart (r : Request) {start : Option Date}
    (ordered : ∀ first ∈ start, first ≤ r.window.finish) : (r.withStart start ordered).withoutStart = r.withoutStart :=
  rfl

/-- The same columns and conditions leave out the period. -/
lemma Request.LeavesOutPeriod.withStart {r : Request} (h : r.LeavesOutPeriod) {start : Option Date}
    (ordered : ∀ first ∈ start, first ≤ r.window.finish) : (r.withStart start ordered).LeavesOutPeriod :=
  ⟨h.columns, h.conditions⟩

/-! ## Plans -/

section

variable {w : Window} {c : Column} {condition : Condition}

/-- What such a column needs does not lie at the first day. -/
lemma Column.needs_withoutStart (h : c.type.mentionsPeriod = false) : c.needs w.withoutStart = c.needs w := by
  unfold needs
  generalize c.type = type at h
  cases type with
  | count counter span ratio form | averagePerDay counter span =>
    cases span with
    | inPeriod => cases h
    | sinceRegistration => rfl
  | level moment =>
    cases moment with
    | start | finishWithChange => cases h
    | finish | sortOrder => rfl
  | milestone counter => cases h
  | _ => rfl

/-- Such a column has one value to work out, with or without a first day. -/
lemma Column.expression?_withoutStart (h : c.type.mentionsPeriod = false) :
    c.expression? w.withoutStart = c.expression? w := by
  unfold expression?
  generalize c.type = type at h
  cases type with
  | count counter span ratio form | averagePerDay counter span =>
    cases span with
    | inPeriod => cases h
    | sinceRegistration => rfl
  | milestone counter => cases h
  | _ => rfl

lemma Column.predicates_withoutStart (h : c.type.mentionsPeriod = false) :
    c.predicates w.withoutStart = c.predicates w := by
  unfold predicates
  rw [expression?_withoutStart h]

/-- A condition that does not mention the period is not measured at its start. -/
lemma Condition.avoidsStart (h : condition.mentionsPeriod = false) : condition.AvoidsStart := by
  rintro t rfl
  exact ne_of_beq_false h

/-- What such a condition needs does not lie at the first day. -/
lemma Condition.needs_withoutStart (h : condition.mentionsPeriod = false) :
    condition.needs w.withoutStart = condition.needs w := by
  cases condition with
  | threshold t =>
    have avoids := avoidsStart h t rfl
    show t.needs w.withoutStart = t.needs w
    unfold Threshold.needs
    simp only [Window.bounds_withoutStart avoids, Window.resolve_withoutStart avoids]
  | milestone counter milestones => cases h
  | level changed ids =>
    cases changed with
    | true => cases h
    | false => rfl
  | _ => rfl

/-- Such a condition is one predicate, with or without a first day. -/
lemma Condition.predicate?_withoutStart (h : condition.mentionsPeriod = false) :
    condition.predicate? w.withoutStart = condition.predicate? w := by
  cases condition with
  | threshold t =>
    have avoids := avoidsStart h t rfl
    show t.predicate? w.withoutStart = t.predicate? w
    unfold Threshold.predicate?
    simp only [Window.bounds_withoutStart avoids, Window.resolve_withoutStart avoids]
  | milestone counter milestones => cases h
  | _ => rfl

/-- Such a condition keeps actors for their level at the last day. -/
lemma Condition.keeps_withoutStart (h : condition.mentionsPeriod = false) (row : LevelledRow) :
    condition.keeps (row.change w.withoutStart) = condition.keeps (row.change w) := by
  cases condition with
  | level changed ids =>
    cases changed with
    | true => cases h
    | false => rfl
  | _ => rfl

/-- Such a column shows and is ordered by the level at the last day, if any. -/
lemma LabelledColumn.value_lastDay {column : LabelledColumn} (h : column.column.type.mentionsPeriod = false)
    (row : LevelledRow) : column.value w.withoutStart row = column.value w row := by
  unfold value shown
  generalize column.column.type = type at h
  cases type with
  | level moment =>
    cases moment with
    | start | finishWithChange => cases h
    | finish | sortOrder => cases column.label <;> rfl
  | _ => cases column.label <;> rfl

end

/-- The columns of a layout are those of its request. -/
lemma Service.mem_columns_of_layout {r : Request} {q : Query} {ladder : Option Ladder} {column : LabelledColumn}
    (listed : column ∈ (layout r q ladder).columns) : column.column ∈ r.columns := by
  have zipped : column ∈ r.columns.zipWith LabelledColumn.mk q.labels := listed
  obtain ⟨i, hi, same⟩ := List.mem_iff_getElem.1 zipped
  rw [List.getElem_zipWith] at same
  subst same
  exact List.getElem_mem _

/-- A step that is the same for each item of a list is the same for the list. -/
lemma mapM_congr {ε α β : Type} {f g : α → Except ε β} {list : List α} (same : ∀ a ∈ list, f a = g a) :
    list.mapM f = list.mapM g := by
  induction list with
  | nil => rfl
  | cons a rest ih =>
    rw [List.mapM_cons, List.mapM_cons, same a (List.mem_cons_self ..)]
    rw [ih fun b listed => same b (List.mem_cons_of_mem a listed)]

namespace Request.LeavesOutPeriod

variable {r : Request} {q : Query} {ladder : Option Ladder}

/-- The plan is the one without a first day. -/
lemma plan_withoutStart (h : r.LeavesOutPeriod) : JoinPlan.ofRequest r.withoutStart = JoinPlan.ofRequest r := by
  have columns : r.columns.flatMap (·.needs r.window.withoutStart) = r.columns.flatMap (·.needs r.window) :=
    List.flatMap_congr fun c listed => Column.needs_withoutStart (h.columns c listed)
  have conditions : r.conditions.mapM (·.needs r.window.withoutStart) = r.conditions.mapM (·.needs r.window) :=
    mapM_congr fun c listed => Condition.needs_withoutStart (h.conditions c listed)
  refine congrArg (JoinPlan.ofNeeds <$> ·) ?_
  show (r.conditions.mapM (·.needs r.window.withoutStart) >>= fun required =>
    pure (r.columns.flatMap (·.needs r.window.withoutStart) ++ required.flatten)) = r.needs
  rw [columns, conditions]
  rfl

/-- The query is the one without a first day. -/
lemma query_withoutStart (h : r.LeavesOutPeriod) : Query.ofRequest r.withoutStart = Query.ofRequest r := by
  have expressions : r.columns.map (·.expression? r.window.withoutStart) = r.columns.map (·.expression? r.window) :=
    List.map_congr_left fun c listed => Column.expression?_withoutStart (h.columns c listed)
  have positive : r.columns.flatMap (·.predicates r.window.withoutStart) = r.columns.flatMap (·.predicates r.window) :=
    List.flatMap_congr fun c listed => Column.predicates_withoutStart (h.columns c listed)
  have conditions : r.conditions.mapM (·.predicate? r.window.withoutStart) =
      r.conditions.mapM (·.predicate? r.window) :=
    mapM_congr fun c listed => Condition.predicate?_withoutStart (h.conditions c listed)
  have built : ∀ p, Query.ofPlan p r.withoutStart = Query.ofPlan p r := by
    intro p
    show (r.conditions.mapM (·.predicate? r.window.withoutStart) >>= fun required =>
      pure ⟨p, r.columns.map (·.expression? r.window.withoutStart),
        r.columns.flatMap (·.predicates r.window.withoutStart) ++ required.filterMap id⟩) = Query.ofPlan p r
    rw [expressions, positive, conditions]
    rfl
  unfold Query.ofRequest
  simp only [h.plan_withoutStart, built]

/-! ## Reports -/

/-- The same rows are kept for their levels. -/
lemma levelled_withoutStart (h : r.LeavesOutPeriod) (l : Layout) (raw : List SourceRow) :
    l.levelled r.withoutStart raw = l.levelled r raw := by
  have keeps : r.withoutStart.keepsLevels = r.keepsLevels := by
    funext row
    show r.conditions.all (·.keeps (row.change r.window.withoutStart)) =
      r.conditions.all (·.keeps (row.change r.window))
    rw [Bool.eq_iff_iff, List.all_eq_true, List.all_eq_true]
    exact forall₂_congr fun c listed => by rw [Condition.keeps_withoutStart (h.conditions c listed)]
  unfold Layout.levelled
  rw [keeps]
  rfl

/-- The report on the rows of a query is the same. -/
lemma report_withoutStart (h : r.LeavesOutPeriod) (botGroup : String) (bots : List Cell) (groups : GroupSource)
    (raw : List SourceRow) :
    (Service.layout r.withoutStart q ladder).report r.withoutStart (r.withoutStart.numbering botGroup bots) groups
        raw =
      (Service.layout r q ladder).report r (r.numbering botGroup bots) groups raw := by
  have report : (fun row : LevelledRow => row.report (Service.layout r q ladder) r.window.withoutStart) =
      fun row => row.report (Service.layout r q ladder) r.window := by
    funext row
    refine congrArg (ReportRow.mk row.raw.id row.raw.shownName) (List.map_congr_left fun column listed => ?_)
    exact LabelledColumn.value_lastDay (h.columns _ (Service.mem_columns_of_layout listed)) row
  unfold Layout.report
  rw [show Service.layout r.withoutStart q ladder = Service.layout r q ladder from rfl, h.levelled_withoutStart]
  simp only [show r.withoutStart.window = r.window.withoutStart from rfl, report]
  rfl

end Request.LeavesOutPeriod

/-! ## Results -/

namespace Service

variable {x : Service} {r : Request} {q : Query}

/-- The same query is answered with the same. -/
lemma answer_withoutStart (h : r.LeavesOutPeriod) (ladder : Option Ladder) (bots : List String) :
    x.answer r.withoutStart q ladder bots = x.answer r q ladder bots := by
  have ids : ∀ raw, (layout r q ladder).actorIds r.withoutStart raw = (layout r q ladder).actorIds r raw := by
    intro raw
    unfold Layout.actorIds
    rw [h.levelled_withoutStart]
  have executed : x.execute r.withoutStart q (layout r q ladder) = x.execute r q (layout r q ladder) := by
    unfold execute
    simp only [ids]
    rfl
  show (stage r.withoutStart "execute" (x.execute r.withoutStart q (layout r q ladder)) >>= fun found => _) = _
  rw [executed]
  refine congrArg _ (funext fun found => ?_)
  cases found with
  | inl rows =>
    show (stage r.withoutStart "postprocess"
      ((layout r.withoutStart q ladder).report r.withoutStart _ _ rows) >>= _) = _
    rw [h.report_withoutStart]
    rfl
  | inr ids => rfl

/-- A request that leaves out the period may go without a first day. -/
lemma compile_of_leavesOutPeriod {bots : Option (List String)} (h : r.LeavesOutPeriod) (clock : List Float) :
    ((x.compile bots r.withoutStart).run clock).result = ((x.compile bots r).run clock).result := by
  have queries : Corresponds Eq (Query.ofRequest r.withoutStart) (Query.ofRequest r) := by
    rw [h.query_withoutStart]
    exact .refl _
  have answers : ∀ q' q, q' = q → ∀ ladder bots,
      Agree Eq (x.answer r.withoutStart q' ladder bots) (x.answer r q ladder bots) := by
    rintro _ q rfl ladder bots
    rw [answer_withoutStart h]
    exact .refl _
  have ladders : x.resources.resolveLadder r.withoutStart = x.resources.resolveLadder r := rfl
  have flagless : x.resources.resolveFlaglessBots r.withoutStart = x.resources.resolveFlaglessBots r := rfl
  rcases compile_alike ladders flagless queries answers clock with same | ⟨_, q, f, rfl, -, refused', refused⟩
  · exact same
  · rw [refused', refused]
    rfl

/-- A request whose columns and conditions do not mention the period of its window has the same result with
whatever first day that is not after the last one, and without a first day. -/
theorem compile_withStart (x : Service) (bots : Option (List String)) (clock : List Float) (r : Request)
    (h : r.LeavesOutPeriod) (start : Option Date) (ordered : ∀ first ∈ start, first ≤ r.window.finish) :
    ((x.compile bots (r.withStart start ordered)).run clock).result = ((x.compile bots r).run clock).result :=
  calc ((x.compile bots (r.withStart start ordered)).run clock).result
    _ = ((x.compile bots (r.withStart start ordered).withoutStart).run clock).result :=
      (compile_of_leavesOutPeriod (h.withStart ordered) clock).symm
    _ = ((x.compile bots r.withoutStart).run clock).result := by rw [r.withoutStart_withStart ordered]
    _ = ((x.compile bots r).run clock).result := compile_of_leavesOutPeriod h clock

end Service

/-! ### The whole history in columns -/

/-- What an actor has done up to the end of 2023, with what it reached by then, for the actors on a rung with few
edits a week before; the window begins at some day. -/
def Json.ofLastDay (start : List (String × Json)) : Json :=
  .object ([("wikiId", .text "w"), ("columns", .list (["counter", "userName", "editsSinceRegistration",
      "revertedEditsSinceRegistrationPercentageToOwnTotalEdits", "averageEditsPerDaySinceRegistration",
      "registrationDate", "lastEditDate", "daysBetweenFirstAndLastEdit", "levelAtPeriodEnd",
      "levelSortOrder"].map fun type => .object [("type", .text type)])),
    ("requirements", .object [("hasLevel", .list [.text "a"]),
      ("totalEditsAtMost", .object [("count", .int 4), ("epoch", .int (-7))])]),
    ("orderBy", .list [.object [("columnId", .text "column2"), ("direction", .text "desc")]]),
    ("serviceAwardLevels", .list [.object [("id", .text "a"), ("label", .text "A"), ("requiredContributions", .int 1),
      ("requiredActiveDays", .int 1)]])] ++ start ++ [("endDate", .text "2023-12-31")])

/-- A first day between the edits of the one actor, one after all of them and none at all give the same result. -/
theorem Service.compile_of_last_day :
    ∃ r ordered ordered' answer, Payload.readRequest (.ofLastDay []) = .ok r ∧
      Payload.readRequest (.ofLastDay [("startDate", .text "2023-06-05")]) =
        .ok (r.withStart (some Date.juneFifth) ordered) ∧
      Payload.readRequest (.ofLastDay [("startDate", .text "2023-12-31")]) =
        .ok (r.withStart (some r.window.finish) ordered') ∧
      r.LeavesOutPeriod ∧
      answer.wholes = [(some 1, [some 1, none, some 3, none, none, none, none, some 31, none, none])] ∧
      ((small.compile none r).run []).result = .ok answer ∧
      ((small.compile none (r.withStart (some Date.juneFifth) ordered)).run []).result = .ok answer ∧
      ((small.compile none (r.withStart (some r.window.finish) ordered')).run []).result = .ok answer := by
  obtain ⟨r, ordered, ordered', parsed, dated, dated', columns, conditions, succeeds⟩ : ∃ r ordered ordered',
      Payload.readRequest (.ofLastDay []) = .ok r ∧
      Payload.readRequest (.ofLastDay [("startDate", .text "2023-06-05")]) =
        .ok (r.withStart (some Date.juneFifth) ordered) ∧
      Payload.readRequest (.ofLastDay [("startDate", .text "2023-12-31")]) =
        .ok (r.withStart (some r.window.finish) ordered') ∧
      (∀ c ∈ r.columns, c.type.mentionsPeriod = false) ∧ (∀ c ∈ r.conditions, c.mentionsPeriod = false) ∧
      (((small.compile none r).run []).result.toOption.any fun a =>
        a.wholes == [(some 1, [some 1, none, some 3, none, none, none, none, some 31, none, none])]) = true :=
    ⟨_, _, _, rfl, rfl, rfl, by decide +kernel, by decide +kernel, by decide +kernel⟩
  obtain ⟨answer, compiled, shown⟩ := exists_of_any succeeds
  have same := compile_withStart small none [] r ⟨columns, conditions⟩
  exact ⟨r, ordered, ordered', answer, parsed, dated, dated', ⟨columns, conditions⟩, eq_of_beq shown, compiled,
    (same (some Date.juneFifth) ordered).trans compiled, (same (some r.window.finish) ordered').trans compiled⟩

end ActivityReport
