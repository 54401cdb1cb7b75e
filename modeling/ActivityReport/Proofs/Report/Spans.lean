import ActivityReport.Proofs.Query.Spans
import ActivityReport.Proofs.Report.Comparison

/-!
# Reports on a window without a first day

A report does not tell a column over the period of the window from the one since registration, save by the
values that the query has for them. In a window without a first day these are the same, so the whole report is
(`Service.compile_withColumns`), provided that the query with the longer expressions is not too large.
-/

namespace ActivityReport

open Traced (Agree)

/-- What is made of items that are paired with others is the same when it is the same for related items. -/
lemma zipWith_eq_of_forall₂ {α β γ δ : Type} {R : α → β → Prop} {f : α → γ → δ} {g : β → γ → δ} {list : List α}
    {list' : List β} (related : List.Forall₂ R list list') (same : ∀ a b, R a b → f a = g b) (others : List γ) :
    list.zipWith f others = list'.zipWith g others := by
  induction related generalizing others with
  | nil => rfl
  | cons first _ ih =>
    cases others with
    | nil => rfl
    | cons other others => rw [List.zipWith_cons_cons, List.zipWith_cons_cons, same _ _ first, ih]

/-! ## Columns -/

/-- The request with other columns. -/
def Request.withColumns (r : Request) (columns : List Column) : Request := { r with columns := columns }

namespace Column.Extends

variable {c c' : Column}

/-- Whatever does not tell a column type from the one since registration is the same for both columns. -/
lemma congr {α : Type} {f : ColumnType → α} (h : c'.Extends c) (same : ∀ t, f t.sinceRegistration = f t) :
    f c'.type = f c.type := by
  rcases h with rfl | rfl
  · rfl
  · exact same c.type

lemma idAt_eq (h : c'.Extends c) (i : Nat) : c'.idAt i = c.idAt i := by
  rcases h with rfl | rfl <;> rfl

lemma isLevel_eq (h : c'.Extends c) : c'.isLevel = c.isLevel :=
  h.congr (f := fun t => t.levelMoment?.isSome) fun t => by cases t <;> rfl

lemma isGroups_eq (h : c'.Extends c) : (c'.type == .userGroups) = (c.type == .userGroups) :=
  h.congr (f := (· == .userGroups)) fun t => by cases t <;> rfl

lemma withGroups_eq (h : c'.Extends c) (groups : List Cell) :
    ColumnValue.withGroups groups c'.type = ColumnValue.withGroups groups c.type :=
  h.congr (f := ColumnValue.withGroups groups) fun t => by cases t <;> rfl

lemma finishCell_eq (h : c'.Extends c) (g : GroupedRow) (number : Cell) :
    g.finishCell number c'.type = g.finishCell number c.type :=
  h.congr (f := g.finishCell number) fun t => by cases t <;> rfl

lemma value_eq (h : c'.Extends c) (label : Option Label) (w : Window) (row : LevelledRow) :
    (LabelledColumn.mk c' label).value w row = (LabelledColumn.mk c label).value w row := by
  rcases h with rfl | rfl
  · rfl
  cases type : c.type with
  | count counter span ratio form =>
    simp only [LabelledColumn.value, LabelledColumn.shown, sinceRegistration, ColumnType.sinceRegistration, type]
    cases label <;> cases ratio <;> rfl
  | averagePerDay counter span =>
    simp only [LabelledColumn.value, LabelledColumn.shown, sinceRegistration, ColumnType.sinceRegistration, type]
    cases label <;> rfl
  | _ => rw [sinceRegistration_eq_self (by rw [type]; rfl)]

end Column.Extends

/-! ## Layouts -/

/-- The rules with other types of columns. -/
def NumberingRules.withTypes (rules : NumberingRules) (types : List ColumnType) : NumberingRules :=
  { rules with types := types }

/-- Rows are numbered alike by rules that finish rows alike. -/
lemma NumberingRules.alike_withTypes {rules : NumberingRules} {types : List ColumnType}
    (same : ∀ g number, GroupedRow.finish g types number = g.finish rules.types number) :
    (rules.withTypes types).Alike rules :=
  ⟨same, rfl, rfl, fun _ => rfl, rfl⟩

section

variable {r : Request} {columns : List Column} {q q' : Query} {ladder : Option Ladder}

/-- A column in a report is another one, or the one since registration, with the same label. -/
def LabelledColumn.Extends (c' c : LabelledColumn) : Prop := c'.column.Extends c.column ∧ c'.label = c.label

lemma extends_zipWith (extended : List.Forall₂ Column.Extends columns r.columns) (labels : List (Option Label)) :
    List.Forall₂ LabelledColumn.Extends (columns.zipWith LabelledColumn.mk labels)
      (r.columns.zipWith LabelledColumn.mk labels) := by
  generalize r.columns = list at extended ⊢
  induction extended generalizing labels with
  | nil => exact .nil
  | cons first _ ih =>
    cases labels with
    | nil => exact .nil
    | cons label labels => exact .cons ⟨first, rfl⟩ (ih labels)

/-- Positions, keys and levels are told by what the columns have in common. -/
lemma Request.position?_withColumns (extended : List.Forall₂ Column.Extends columns r.columns) :
    (r.withColumns columns).position? = r.position? := by
  have ids : (r.withColumns columns).columnIds = r.columnIds := by
    refine List.ext_getElem? fun i => ?_
    show (columns.mapIdx Column.idAt)[i]? = (r.columns.mapIdx Column.idAt)[i]?
    rw [List.getElem?_mapIdx, List.getElem?_mapIdx]
    have same := congrArg (·[i]?) (map_eq_of_forall₂ extended fun _ _ h => h.idAt_eq i)
    simpa only [List.getElem?_map] using same
  funext id
  rw [position?, ids, position?]

lemma Request.needsLevels_withColumns (extended : List.Forall₂ Column.Extends columns r.columns) :
    (r.withColumns columns).needsLevels = r.needsLevels := by
  have same : columns.any Column.isLevel = r.columns.any Column.isLevel := by
    have levels := map_eq_of_forall₂ extended fun _ _ h => h.isLevel_eq
    simpa only [List.any_map, Function.id_comp] using congrArg (List.any · id) levels
  exact congrArg (· || r.conditions.any Condition.isLevel) same

lemma Request.sortsByGroups_withColumns (extended : List.Forall₂ Column.Extends columns r.columns) :
    (r.withColumns columns).sortsByGroups = r.sortsByGroups := by
  unfold sortsByGroups
  rw [position?_withColumns extended]
  refine congrArg (List.any r.orderBy) (funext fun key => ?_)
  have same : ∀ i : Nat, (columns[i]?).any (·.type == .userGroups) = (r.columns[i]?).any (·.type == .userGroups) := by
    intro i
    have groups := congrArg (·[i]?) (map_eq_of_forall₂ extended fun _ _ h => h.isGroups_eq)
    simp only [List.getElem?_map] at groups
    have any : ∀ c : Option Column, c.any (·.type == .userGroups) = (c.map (·.type == .userGroups)).any id := by
      intro c
      cases c <;> rfl
    rw [any, any, groups]
  cases r.position? key.columnId with
  | none => rfl
  | some i => exact same i

/-- The rows are brought into order alike. -/
lemma Layout.ordered_withColumns {l' l : Layout} (extended : List.Forall₂ Column.Extends columns r.columns)
    (labelled : List.Forall₂ LabelledColumn.Extends l'.columns l.columns) (groups : GroupSource)
    (rows : List ReportRow) : l'.ordered (r.withColumns columns) groups rows = l.ordered r groups rows := by
  have cells : ∀ g : GroupedRow, g.withGroupCells (l'.columns.map (·.column.type)) =
      g.withGroupCells (l.columns.map (·.column.type)) := by
    intro g
    unfold GroupedRow.withGroupCells
    rw [List.zipWith_map_left, List.zipWith_map_left]
    exact congrArg (fun values => ({ g.row with values := values } : ReportRow))
      (zipWith_eq_of_forall₂ labelled (fun _ _ h => h.1.withGroups_eq g.groups) g.row.values)
  unfold ordered Request.unknownKeys Request.sortKeys
  rw [Request.sortsByGroups_withColumns extended, Request.position?_withColumns extended]
  simp only [cells]
  rfl

/-- The report is the same with columns since registration, when the rows are. -/
lemma Layout.report_withColumns (extended : List.Forall₂ Column.Extends columns r.columns)
    (plan : q'.plan = q.plan) (labels : q'.labels = q.labels) (botGroup : String) (bots : List Cell)
    (groups : GroupSource) (raw : List SourceRow) :
    (Service.layout (r.withColumns columns) q' ladder).report (r.withColumns columns)
        ((r.withColumns columns).numbering botGroup bots) groups raw =
      (Service.layout r q ladder).report r (r.numbering botGroup bots) groups raw := by
  have labelled : List.Forall₂ LabelledColumn.Extends (Service.layout (r.withColumns columns) q' ladder).columns
      (Service.layout r q ladder).columns := by
    show List.Forall₂ _ (columns.zipWith LabelledColumn.mk q'.labels) _
    rw [labels]
    exact extends_zipWith extended q.labels
  have levelled : (Service.layout (r.withColumns columns) q' ladder).levelled (r.withColumns columns) raw =
      (Service.layout r q ladder).levelled r raw := by
    unfold Service.layout Layout.ofRequest
    rw [plan]
    rfl
  have lacks : (Service.layout (r.withColumns columns) q' ladder).lacksLabels (r.withColumns columns) =
      (Service.layout r q ladder).lacksLabels r := by
    unfold lacksLabels
    rw [labelled.length_eq, show (r.withColumns columns).columns.length = r.columns.length from extended.length_eq]
  have shown : ∀ row : LevelledRow, row.report (Service.layout (r.withColumns columns) q' ladder) r.window =
      row.report (Service.layout r q ladder) r.window := by
    intro row
    refine congrArg (ReportRow.mk row.raw.id row.raw.shownName) (map_eq_of_forall₂ labelled ?_)
    rintro ⟨c', label'⟩ ⟨c, label⟩ ⟨extended, rfl⟩
    exact extended.value_eq _ r.window row
  have finish : ∀ (g : GroupedRow) (number : Cell),
      g.finish (columns.map Column.type) number = g.finish (r.columns.map Column.type) number := by
    intro g number
    unfold GroupedRow.finish
    rw [List.zipWith_map_left, List.zipWith_map_left]
    exact congrArg (ActorRow.mk g.row.id g.row.name g.groups)
      (zipWith_eq_of_forall₂ extended (fun _ _ h => h.finishCell_eq g number) g.row.values)
  have rules : (r.withColumns columns).numbering botGroup bots =
      (r.numbering botGroup bots).withTypes (columns.map Column.type) := rfl
  unfold report
  rw [levelled, lacks, rules]
  simp only [ordered_withColumns extended labelled,
    (@NumberingRules.alike_withTypes (r.numbering botGroup bots) _ finish).apply_eq]
  rw [show (r.withColumns columns).window = r.window from rfl]
  simp only [shown]
  rfl

/-! ## Queries -/

/-- In a window without a first day the plan is the same with columns since registration. -/
lemma JoinPlan.ofRequest_withColumns (timeless : r.window.start = none)
    (extended : List.Forall₂ Column.Extends columns r.columns) :
    ofRequest (r.withColumns columns) = ofRequest r := by
  have needs : columns.flatMap (·.needs r.window) = r.columns.flatMap (·.needs r.window) :=
    flatMap_eq_of_forall₂ extended fun _ _ h => Column.needs_eq_of_extends timeless h
  unfold ofRequest Request.needs
  rw [show (r.withColumns columns).columns.flatMap (·.needs (r.withColumns columns).window) =
    r.columns.flatMap (·.needs r.window) from needs]
  rfl

/-- In a window without a first day the query with columns since registration stands for the other one. -/
lemma Query.ofRequest_withColumns (timeless : r.window.start = none)
    (extended : List.Forall₂ Column.Extends columns r.columns) :
    Corresponds (fun q' q => q'.StandsFor (fun _ => True) q ∧ q'.plan = q.plan)
      (ofRequest (r.withColumns columns)) (ofRequest r) := by
  unfold ofRequest
  rw [JoinPlan.ofRequest_withColumns timeless extended]
  refine (Corresponds.refl _).bind ?_
  rintro p _ rfl
  unfold ofPlan
  refine (Corresponds.refl _).bind ?_
  rintro required _ rfl
  refine .ok ⟨⟨⟨.refl _, rfl, .refl _⟩, ?_, ?_⟩, rfl⟩
  · exact List.rel_map (fun _ _ h => Column.standsFor_of_extends timeless h) extended
  · refine List.rel_append (List.rel_flatMap extended fun c' c h => ?_)
      (List.forall₂_same.2 fun predicate _ => .refl predicate)
    refine Column.predicates_standsFor (Column.standsFor_of_extends timeless h) ?_
    rcases h with rfl | rfl <;> rfl

/-- A query that stands for another one in all rows and reads the same returns the same rows. -/
lemma Query.StandsFor.rows_eq (h : q'.StandsFor (fun _ => True) q) (plan : q'.plan = q.plan) (s : Store)
    (actorTable : String) : q'.rows s actorTable = q.rows s actorTable := by
  have matching : q'.matching s actorTable = q.matching s actorTable := by
    unfold matching
    rw [plan]
    simp only [h.holds_eq s trivial]
  unfold rows
  rw [matching]
  refine List.map_congr_left fun j _ => ?_
  have cells : (RawRow.ofJoined q' j).cell = (RawRow.ofJoined q j).cell := by
    funext label
    cases label with
    | column i => exact h.column_cell_eq trivial i
    | levelTotal l counter =>
      show RawRow.levelCell j q'.plan.levels l counter = RawRow.levelCell j q.plan.levels l counter
      rw [plan]
  exact congrArg (RawRow.mk j.actor.id j.actor.name) cells

end

/-! ## Results -/

namespace Service

variable {x : Service} {r : Request} {columns : List Column} {q q' : Query}

/-- The query with columns since registration is answered like the other one. -/
lemma answersAlike_withColumns (extended : List.Forall₂ Column.Extends columns r.columns)
    (stands : q'.StandsFor (fun _ => True) q) (plan : q'.plan = q.plan) (within : q.isWithinLimits = true) :
    x.AnswersAlike (r.withColumns columns) r q' q Eq where
  executed := by
    refine Database.execute_corresponds ?_ ?_ fun s _ => stands.rows_eq plan s _
    · -- both can be joined or neither can, so that it is enough to look at the limits where they can
      have taken := stands.noLarger.isTaken (x.settings.naming r.wikiId).actorTable
      rw [plan] at taken ⊢
      rw [within, Bool.and_true] at taken ⊢
      exact Bool.eq_iff_iff.2 ⟨fun joinable => (Bool.and_eq_true_iff.1 joinable).1, taken⟩
    · rw [stands.parameters_eq, plan]
      rfl
  asked := by
    show columns.isEmpty = r.columns.isEmpty
    rw [Bool.eq_iff_iff, List.isEmpty_iff_length_eq_zero, List.isEmpty_iff_length_eq_zero, extended.length_eq]
  levels _ := by rw [plan]
  ids := by
    rintro _ rows rfl
    rfl
  kept := by
    rintro _ rows rfl ladder
    unfold layout Layout.ofRequest Layout.actorIds
    rw [plan]
    exact .refl _
  reported := by
    rintro _ rows rfl ladder botGroup bots groups
    rw [Layout.report_withColumns extended plan stands.noLarger.labels_eq]
    exact .refl _

/-- In a window without a first day, columns over the period may be replaced by those since registration, unless
the query with the former is too large. -/
lemma compile_withColumns {bots : Option (List String)} (timeless : r.window.start = none)
    (extended : List.Forall₂ Column.Extends columns r.columns)
    (within : ∀ q, Query.ofRequest r = .ok q → q.isWithinLimits = true) (clock : List Float) :
    ((x.compile bots (r.withColumns columns)).run clock).result = ((x.compile bots r).run clock).result := by
  have ladders : x.resources.resolveLadder (r.withColumns columns) = x.resources.resolveLadder r := by
    unfold Resources.resolveLadder
    rw [Request.needsLevels_withColumns extended]
    rfl
  have answers : ∀ q' q, (q'.StandsFor (fun _ => True) q ∧ q'.plan = q.plan) ∧
      Query.ofRequest (r.withColumns columns) = .ok q' ∧ Query.ofRequest r = .ok q → ∀ ladder bots,
        Agree Eq (x.answer (r.withColumns columns) q' ladder bots) (x.answer r q ladder bots) := by
    rintro q' q ⟨⟨stands, plan⟩, -, built⟩
    exact (answersAlike_withColumns extended stands plan (within q built)).answer_agree rfl
  rcases compile_alike ladders (show x.resources.resolveFlaglessBots (r.withColumns columns) = _ from rfl)
    (Query.ofRequest_withColumns timeless extended).results answers clock with
    same | ⟨q', q, f, ⟨⟨-, plan⟩, -⟩, -, refused', refused⟩
  · exact same
  · rw [refused', refused]
    unfold queryIncident
    rw [plan]
    rfl

end Service

end ActivityReport
