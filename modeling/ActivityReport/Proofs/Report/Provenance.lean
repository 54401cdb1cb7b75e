import ActivityReport.Proofs.Query.Coverage
import ActivityReport.Proofs.Report.Answer
import ActivityReport.Proofs.Report.Levels
import ActivityReport.Proofs.Sorting.Permutation

/-!
# Where rows come from

Each row of a report is traced back to a row of its query. Ordering rearranges rows (`sortRows_perm`), and
numbering finishes them one by one (`NumberingRules.exists_lookedUp_of_mem_number`); groups that are filled in before
the rows are ordered are replaced when they are finished (`GroupedRow.finish_withGroupCells`). What a column
with an expression shows is then the value of the expression for the actor of the row
(`Service.exists_of_mem_rows`).
-/

namespace ActivityReport

open Traced (ComesTo comesTo_pure comesTo_result not_comesTo_fail)

/-! ## Ordering -/

/-- Rows in order are the rows. -/
lemma sortRows_perm {keys : List SortKey} {rows sorted : List ReportRow} (h : sortRows keys rows = .ok sorted) :
    sorted.Perm rows := by
  unfold sortRows at h
  split at h
  · cases h
    exact List.mergeSort_perm _ _
  · exact Sorting.sort_perm h

/-- What does not depend on groups being filled in before is not changed by that. -/
lemma zipWith_withGroups (groups : List Cell) {finish : ColumnType → ColumnValue → Cell}
    (blind : ∀ v v', finish .userGroups v = finish .userGroups v') (types : List ColumnType)
    (values : List ColumnValue) :
    List.zipWith finish types (List.zipWith (ColumnValue.withGroups groups) types values) =
      List.zipWith finish types values := by
  induction types generalizing values with
  | nil => rfl
  | cons t types ih =>
    cases values with
    | nil => rfl
    | cons v values =>
      rw [List.zipWith_cons_cons, List.zipWith_cons_cons, List.zipWith_cons_cons, ih]
      cases t
      case userGroups => rw [blind _ v]
      all_goals rfl

/-- A row whose groups have been filled in before is finished as the row itself. -/
lemma GroupedRow.finish_withGroupCells (lookup : Cell → List Cell) (row : ReportRow) (types : List ColumnType)
    (number : Cell) :
    (ofLookup lookup ((ofLookup lookup row).withGroupCells types)).finish types number =
      (ofLookup lookup row).finish types number := by
  have blind : ∀ v v', (ofLookup lookup row).finishCell number .userGroups v =
      (ofLookup lookup row).finishCell number .userGroups v' := fun _ _ => rfl
  exact congrArg (ActorRow.mk row.id row.name (lookup row.id)) (zipWith_withGroups (lookup row.id) blind types row.values)

namespace Layout

variable {l : Layout} {r : Request} {groups : GroupSource} {reports rest : List ReportRow} {known : List GroupedRow}

/-- The rows in order: without groups when no group is needed for the order, else with them. -/
lemma cases_of_ordered (h : (l.ordered r groups reports).ComesTo (known, rest)) :
    (¬ (r.sortsByGroups && !reports.isEmpty) = true ∧ known = [] ∧ sortRows r.sortKeys reports = .ok rest) ∨
    (r.sortsByGroups = true ∧ rest = [] ∧ ∃ lookup sorted, lookup = groups.lookup (reports.map ReportRow.id) ∧
      sortRows r.sortKeys (reports.map fun row =>
        (GroupedRow.ofLookup lookup row).withGroupCells (l.columns.map (·.column.type))) = .ok sorted ∧
      known = sorted.map (GroupedRow.ofLookup lookup)) := by
  unfold ordered at h
  simp only at h
  split at h
  · rename_i asked
    obtain ⟨_, -, h⟩ := h.bind
    obtain ⟨_, -, h⟩ := h.bind
    obtain ⟨_, -, h⟩ := h.bind
    obtain ⟨sorted, inOrder, h⟩ := h.bind
    obtain ⟨rfl, rfl⟩ := Prod.mk.inj (comesTo_pure.1 h)
    have inOrder := mapError_eq_ok.1 (comesTo_result.1 inOrder)
    exact Or.inr ⟨(Bool.and_eq_true_iff.1 asked).1, rfl, _, sorted, rfl, inOrder, rfl⟩
  · rename_i notAsked
    obtain ⟨_, -, h⟩ := h.bind
    obtain ⟨sorted, inOrder, h⟩ := h.bind
    obtain ⟨rfl, rfl⟩ := Prod.mk.inj (comesTo_pure.1 h)
    exact Or.inl ⟨notAsked, rfl, mapError_eq_ok.1 (comesTo_result.1 inOrder)⟩

end Layout

/-! ## Numbering -/

/-- Whether the groups of a row are what a look-up that asks for its actor tells. -/
def GroupedRow.IsLookedUp (g : GroupedRow) (lookup : GroupLookup) : Prop :=
  ∃ ids, g.row.id ∈ ids ∧ g.groups = lookup ids g.row.id

namespace NumberingRules

variable {rules : NumberingRules} {lookup : GroupLookup} {batch count : Nat} {known : List GroupedRow}
  {rest : List ReportRow} {row : ActorRow}

/-- A numbered row is a finished one: of those whose groups are known, or of the others, whose groups are looked
up. -/
lemma exists_lookedUp_of_mem_number (h : row ∈ (rules.number lookup batch count known rest).1) :
    ∃ g number, row = g.finish rules.types number ∧ (g ∈ known ∨ g.row ∈ rest ∧ g.IsLookedUp lookup) := by
  fun_induction number rules lookup batch count known rest with
  | case1 => cases h
  | case2 => cases h
  | case3 count g known rest notDone passed rows asked found ih =>
    rcases List.mem_cons.1 h with rfl | later
    · exact ⟨g, _, rfl, Or.inl List.mem_cons_self⟩
    · obtain ⟨g', number, rfl, source⟩ := ih (by rwa [found])
      exact ⟨g', number, rfl, source.imp_left (List.mem_cons_of_mem _)⟩
  | case4 count g known rest notDone notPassed rows asked found ih =>
    rcases List.mem_cons.1 h with rfl | later
    · exact ⟨g, _, rfl, Or.inl List.mem_cons_self⟩
    · obtain ⟨g', number, rfl, source⟩ := ih (by rwa [found])
      exact ⟨g', number, rfl, source.imp_left (List.mem_cons_of_mem _)⟩
  | case5 => cases h
  | case6 count first rest notDone ids rows asked found ih =>
    -- the batch that is looked up and what is left are both of the rest
    obtain ⟨g, number, rfl, source⟩ := ih (by rwa [found])
    refine ⟨g, number, rfl, Or.inr ?_⟩
    rcases source with batch | ⟨later, looked⟩
    · obtain ⟨report, looked, rfl⟩ := List.mem_map.1 batch
      refine ⟨?_, ids, List.mem_map_of_mem looked, rfl⟩
      rcases List.mem_cons.1 looked with rfl | early
      · exact List.mem_cons_self
      · exact List.mem_cons_of_mem _ (List.mem_of_mem_take early)
    · exact ⟨List.mem_cons_of_mem _ (List.mem_of_mem_drop later), looked⟩

/-- The rows that are numbered are noted, and otherwise stay as they are. -/
lemma rows_of_apply {groups : GroupSource} {rows : List ActorRow}
    (h : (rules.apply groups known rest).ComesTo rows) :
    rows = (rules.number groups.lookup (groups.stride rest.length - 1) 0 known rest).1 := by
  obtain ⟨_, -, h⟩ := h.bind
  simp only at h
  split at h
  · obtain ⟨_, -, h⟩ := h.bind
    exact absurd h not_comesTo_fail
  · obtain ⟨_, -, h⟩ := h.bind
    split at h
    · obtain ⟨_, failed, -⟩ := h.bind
      exact absurd failed not_comesTo_fail
    · exact (comesTo_pure.1 h).symm

end NumberingRules

/-! ## Rows of a report -/

/-- A report is made in three stages: rows get their levels and are kept for them, they are put in order, and they are
numbered. -/
lemma Layout.stages_of_report {l : Layout} {r : Request} {rules : NumberingRules} {groups : GroupSource}
    {raw : List SourceRow} {rows : List ActorRow} (h : (l.report r rules groups raw).ComesTo rows) :
    ∃ all, l.withLevels raw = .ok all ∧ ∃ known rest,
      (l.ordered r groups ((all.filter r.keepsLevels).map (·.report l r.window))).ComesTo (known, rest) ∧
        rows = (rules.number groups.lookup (groups.stride rest.length - 1) 0 known rest).1 := by
  obtain ⟨kept, isKept, h⟩ := h.bind
  obtain ⟨all, levelled, rfl⟩ := rows_of_levelled isKept
  obtain ⟨⟨known, rest⟩, ordered, h⟩ := (ComesTo.of_ite_bind h).bind
  obtain ⟨finished, applied, h⟩ := h.bind
  obtain ⟨_, -, h⟩ := h.bind
  obtain rfl := comesTo_pure.1 (ComesTo.of_ite_bind (f := fun _ => pure finished) h)
  exact ⟨all, levelled, known, rest, ordered, rules.rows_of_apply applied⟩

/-- A row of a report is the finished row of one that got its levels and was kept for them, and whose groups were
looked up. -/
theorem Layout.exists_lookedUp_of_mem_report {l : Layout} {r : Request} {rules : NumberingRules} {groups : GroupSource}
    {raw : List SourceRow} {rows : List ActorRow} (h : (l.report r rules groups raw).ComesTo rows)
    (types : rules.types = l.columns.map (·.column.type)) {row : ActorRow} (listed : row ∈ rows) :
    ∃ source ∈ raw, ∃ levelled, ∃ g : GroupedRow, ∃ number, source.withLevels l.ladder l.levels = .ok levelled ∧
      r.keepsLevels levelled = true ∧ g.row = levelled.report l r.window ∧ row = g.finish rules.types number ∧
      g.IsLookedUp groups.lookup := by
  obtain ⟨all, levelled, known, rest, ordered, rfl⟩ := stages_of_report h
  -- what is ordered are the rows that were kept, and no step below makes a row of its own
  have source : ∀ report ∈ (all.filter r.keepsLevels).map (·.report l r.window), ∃ source ∈ raw, ∃ levelled,
      source.withLevels l.ladder l.levels = .ok levelled ∧ r.keepsLevels levelled = true ∧
        report = levelled.report l r.window := by
    intro report found
    obtain ⟨row, passed, rfl⟩ := List.mem_map.1 found
    obtain ⟨found, keeps⟩ := List.mem_filter.1 passed
    obtain ⟨source, mem, own⟩ := (mem_of_mapM_eq_ok levelled).1 found
    exact ⟨source, mem, row, own, keeps, rfl⟩
  obtain ⟨g, number, rfl, inOrder⟩ := NumberingRules.exists_lookedUp_of_mem_number listed
  rcases cases_of_ordered ordered with ⟨-, rfl, sorted⟩ | ⟨-, rfl, lookup, sorted, rfl, isSorted, rfl⟩
  · obtain ⟨inOrder, looked⟩ := inOrder.resolve_left List.not_mem_nil
    obtain ⟨raw, mem, levelled, own, keeps, same⟩ := source _ ((sortRows_perm sorted).mem_iff.1 inOrder)
    exact ⟨raw, mem, levelled, g, number, own, keeps, same, rfl, looked⟩
  · obtain ⟨filled, inSorted, rfl⟩ := List.mem_map.1 (inOrder.resolve_right fun none => absurd none.1 List.not_mem_nil)
    obtain ⟨report, isReport, rfl⟩ := List.mem_map.1 ((sortRows_perm isSorted).mem_iff.1 inSorted)
    obtain ⟨raw, mem, levelled, own, keeps, rfl⟩ := source _ isReport
    refine ⟨raw, mem, levelled, .ofLookup _ (levelled.report l r.window), number, own, keeps, rfl, ?_,
      _, List.mem_map_of_mem isReport, rfl⟩
    rw [types]
    exact GroupedRow.finish_withGroupCells _ _ _ number

/-! ## Columns of a report -/

namespace Service

variable {r : Request} {p : JoinPlan} {q : Query} {ladder : Option Ladder}

/-- The columns of a layout are those of the request, labelled by their positions when they have an
expression. -/
lemma getElem?_columns (built : Query.ofPlan p r = .ok q) (i : Nat) :
    (layout r q ladder).columns[i]? =
      r.columns[i]?.map fun c => ⟨c, (c.expression? r.window).map fun _ => .column i⟩ := by
  obtain ⟨_, -, rfl⟩ := Query.ofPlan_eq_ok.1 built
  rw [layout, Layout.ofRequest, List.getElem?_zipWith, Query.labels, List.getElem?_mapIdx, List.getElem?_map]
  cases r.columns[i]? <;> rfl

/-- The columns of a layout are of the types that the request asks for. -/
lemma types_columns (built : Query.ofPlan p r = .ok q) :
    (layout r q ladder).columns.map (·.column.type) = r.columns.map Column.type := by
  refine List.ext_getElem? fun i => ?_
  rw [List.getElem?_map, List.getElem?_map, getElem?_columns built]
  cases r.columns[i]? <;> rfl

/-- Where the rows of an answer come from: each is the finished row of one that matches the query, got its
levels and was kept for them, and whose groups were looked up. -/
theorem exists_lookedUp_of_mem_rows {x : Service} {s : Store} (stored : x.database.store = some s)
    (built : Query.ofPlan p r = .ok q) (columns : r.columns ≠ []) {flagless : List String} {answer : Answer}
    (h : (x.answer r q ladder flagless).ComesTo answer) :
    ∃ rows, answer = .rows rows ∧ ∀ row ∈ rows, ∃ j ∈ q.matching s (x.settings.naming r.wikiId).actorTable,
      ∃ levelled, ∃ g : GroupedRow, ∃ number,
        (RawRow.ofJoined q j).source.withLevels ladder q.plan.levels = .ok levelled ∧
        r.keepsLevels levelled = true ∧ g.row = levelled.report (layout r q ladder) r.window ∧
        row = g.finish (r.columns.map Column.type) number ∧ g.IsLookedUp (groupSource s).lookup := by
  obtain ⟨rows, reported, rfl⟩ := report_of_answer stored columns h
  refine ⟨rows, rfl, fun row listed => ?_⟩
  obtain ⟨source, mem, levelled, g, number, own, keeps, same, rfl, looked⟩ :=
    Layout.exists_lookedUp_of_mem_report reported (types_columns built).symm listed
  rw [Query.rows, List.map_map] at mem
  obtain ⟨j, matched, rfl⟩ := List.mem_map.1 mem
  exact ⟨j, matched, levelled, g, number, own, keeps, same, rfl, looked⟩

/-- Where the rows of an answer come from, apart from their groups. -/
theorem exists_of_mem_rows {x : Service} {s : Store} (stored : x.database.store = some s)
    (built : Query.ofPlan p r = .ok q) (columns : r.columns ≠ []) {flagless : List String} {answer : Answer}
    (h : (x.answer r q ladder flagless).ComesTo answer) :
    ∃ rows, answer = .rows rows ∧ ∀ row ∈ rows, ∃ j ∈ q.matching s (x.settings.naming r.wikiId).actorTable,
      ∃ levelled, ∃ g : GroupedRow, ∃ number,
        (RawRow.ofJoined q j).source.withLevels ladder q.plan.levels = .ok levelled ∧
        r.keepsLevels levelled = true ∧ g.row = levelled.report (layout r q ladder) r.window ∧
        row = g.finish (r.columns.map Column.type) number := by
  obtain ⟨rows, rfl, source⟩ := exists_lookedUp_of_mem_rows stored built columns h
  refine ⟨rows, rfl, fun row listed => ?_⟩
  obtain ⟨j, matched, levelled, g, number, own, keeps, same, finished, -⟩ := source row listed
  exact ⟨j, matched, levelled, g, number, own, keeps, same, finished⟩

/-- A finished row shows the value of its expression in each column that has one. -/
theorem getElem?_values (built : Query.ofPlan p r = .ok q) {j : JoinedRow} {levelled : LevelledRow}
    (own : (RawRow.ofJoined q j).source.withLevels ladder q.plan.levels = .ok levelled) {g : GroupedRow}
    (same : g.row = levelled.report (layout r q ladder) r.window) (number : Cell) {i : Nat} {c : Column}
    (asked : r.columns[i]? = some c) {e : Expression} (expressed : c.expression? r.window = some e) :
    (g.finish (r.columns.map Column.type) number).values[i]? = some (c.type.valueType.normalize (e.eval j)) := by
  have cell : levelled.raw.cell (.column i) = e.eval j := by
    obtain ⟨_, -, rfl⟩ := Query.ofPlan_eq_ok.1 built
    rw [SourceRow.raw_of_withLevels own]
    simp only [RawRow.source, RawRow.ofJoined, List.getElem?_map, asked, Option.map_some, expressed]
  have value : g.row.values[i]? = some ((LabelledColumn.mk c (some (.column i))).value r.window levelled) := by
    rw [same, LevelledRow.report, List.getElem?_map, getElem?_columns built, asked]
    simp only [Option.map_some, expressed]
  rw [GroupedRow.finish, List.getElem?_zipWith, List.getElem?_map, asked, value]
  simp only [Option.map_some]
  rw [← cell]
  cases type : c.type
  case rowNumber | userName | userGroups | level => simp [Column.expression?, type] at expressed
  all_goals simp [GroupedRow.finishCell, LabelledColumn.value, LabelledColumn.shown, type]

end Service

end ActivityReport
