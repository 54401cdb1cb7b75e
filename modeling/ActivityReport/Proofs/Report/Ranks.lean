import ActivityReport.Proofs.Sorting.Naturality
import ActivityReport.Proofs.Trace.Agreement
import ActivityReport.Report.Basic

/-!
# Ranks of starting levels

A column of starting levels is the only one whose rank is not told by what it shows. Where all rows have the
same starting level it does not order them: whichever double stands there as the rank, rows are sorted alike
(`sortRows_withStartRank`) and numbered alike, and the report is the same (`Layout.report_agree`).
-/

namespace ActivityReport

/-! ## Cells with one double -/

namespace Decimal

lemma compareSize_self (x : Decimal) : x.compareSize x = .eq := by
  unfold compareSize
  split
  · exact Nat.compare_eq_eq.2 rfl
  · rw [show compare x.magnitude x.magnitude = .eq from Int.compare_eq_eq.2 rfl]
    exact Nat.compare_eq_eq.2 rfl

lemma order_self (x : Decimal) : x.order x = .eq := by
  unfold order
  cases x.isBelowZero <;> exact compareSize_self x

end Decimal

namespace Cell

/-- A double has an order with itself, not-a-number as well. -/
lemma tryCompare_float_self (x : Float) : (float x).tryCompare (float x) = .ok .eq := by
  show orderQuantity (false, .ofFloat x) (false, .ofFloat x) = _
  unfold orderQuantity
  cases ExtendedDecimal.ofFloat x with
  | finite d => exact congrArg Except.ok (Decimal.order_self d)
  | infinite negative => simp [ExtendedDecimal.order?]
  | undefined => rfl

lemma order_float_self (x : Float) : (float x).order (float x) = .eq := by
  show Number.Numeral.compare (.real x) (.real x) = .eq
  unfold Number.Numeral.compare
  cases extent : Number.Numeral.extent? (.real x) with
  | none => rfl
  | some e =>
    cases e with
    | value r => simp [Number.Extent.compare]
    | below | above => rfl

end Cell

/-! ## Rows with a rank for starting levels -/

/-- A row with a rank in place of those of its starting levels. -/
def ReportRow.withStartRank (types : List ColumnType) (rank : Float) (row : ReportRow) : ReportRow :=
  { row with values := row.values.mapIdx fun i v =>
      if types[i]? = some (.level .start) then { v with rank := .float rank } else v }

namespace ReportRow

variable {types : List ColumnType} {x y : Float}

/-- Where the rank of a starting level stands, it stands in all rows that are long enough; elsewhere nothing
depends on it. -/
lemma rank_withStartRank (types : List ColumnType) (i : Nat) :
    (∀ (x : Float) (row : ReportRow), (row.withStartRank types x).rank i =
      if i < row.values.length then .float x else .null) ∨
    ∀ (x : Float) (row : ReportRow), (row.withStartRank types x).rank i = row.rank i := by
  by_cases start : types[i]? = some (.level .start)
  · left
    intro x row
    unfold rank withStartRank
    rw [List.getElem?_mapIdx, start]
    by_cases inside : i < row.values.length
    · rw [if_pos inside, List.getElem?_eq_getElem inside]
      rfl
    · rw [if_neg inside, List.getElem?_eq_none (Nat.le_of_not_lt inside)]
      rfl
  · right
    intro x row
    unfold rank withStartRank
    rw [List.getElem?_mapIdx]
    simp only [start, if_false, Option.map_id']

lemma tryCompareCells_withStartRank (descending : Bool) (i : Nat) (a b : ReportRow) :
    tryCompareCells descending ((a.withStartRank types x).rank i) ((b.withStartRank types x).rank i) =
      tryCompareCells descending ((a.withStartRank types y).rank i) ((b.withStartRank types y).rank i) := by
  rcases rank_withStartRank types i with same | same
  · have self : ∀ x, tryCompareCells descending (.float x) (.float x) = .ok .eq := by
      intro x
      show _ <$> (Cell.float x).tryCompare (.float x) = _
      rw [Cell.tryCompare_float_self]
      cases descending <;> rfl
    simp only [same]
    split <;> split
    · rw [self, self]
    all_goals rfl
  · simp only [same]

lemma compareCells_withStartRank (descending : Bool) (i : Nat) (a b : ReportRow) :
    compareCells descending ((a.withStartRank types x).rank i) ((b.withStartRank types x).rank i) =
      compareCells descending ((a.withStartRank types y).rank i) ((b.withStartRank types y).rank i) := by
  rcases rank_withStartRank types i with same | same
  · have self : ∀ x, compareCells descending (.float x) (.float x) = .eq := by
      intro x
      show (if descending then ((Cell.float x).order (.float x)).swap else (Cell.float x).order (.float x)) = _
      rw [Cell.order_float_self]
      cases descending <;> rfl
    simp only [same]
    split <;> split
    · rw [self, self]
    all_goals rfl
  · simp only [same]

/-- Two rows are compared alike whichever rank stands for their starting levels. -/
lemma tryLess_withStartRank (keys : List SortKey) :
    Sorting.Less.on (tryLess keys) (withStartRank types x) =
      Sorting.Less.on (tryLess keys) (withStartRank types y) := by
  funext a b
  have stepwise : ∀ keys, tryCompareBy (a.withStartRank types x) (b.withStartRank types x) keys =
      tryCompareBy (a.withStartRank types y) (b.withStartRank types y) keys := by
    intro keys
    induction keys with
    | nil => rfl
    | cons key rest ih => rw [tryCompareBy, tryCompareBy, tryCompareCells_withStartRank (y := y), ih]
  unfold Sorting.Less.on tryLess
  rw [stepwise]
  rfl

lemma compare_withStartRank (keys : List SortKey) (a b : ReportRow) :
    compare keys (a.withStartRank types x) (b.withStartRank types x) =
      compare keys (a.withStartRank types y) (b.withStartRank types y) := by
  have stepwise : ∀ keys, compareBy (a.withStartRank types x) (b.withStartRank types x) keys =
      compareBy (a.withStartRank types y) (b.withStartRank types y) keys := by
    intro keys
    induction keys with
    | nil => rfl
    | cons key rest ih => rw [compareBy, compareBy, compareCells_withStartRank (y := y), ih]
  unfold compare
  rw [stepwise]
  rfl

end ReportRow

section

variable {types : List ColumnType} {x y : Float}

/-- A number sorts among the numbers. -/
lemma Cell.fits_float (number : x.isNaN = false) (f : CellFamily) :
    (Cell.float x).fits f = (some CellFamily.number == some f) := by
  show (false || (if x.isNaN then none else some CellFamily.number) == some f) = _
  rw [number, if_neg Bool.false_ne_true, Bool.false_or]

/-- Rows have one order whichever number stands for their starting levels. -/
lemma haveOrder_withStartRank (number : x.isNaN = false) (number' : y.isNaN = false) (keys : List SortKey)
    (rows : List ReportRow) :
    haveOrder keys (rows.map (ReportRow.withStartRank types x)) =
      haveOrder keys (rows.map (ReportRow.withStartRank types y)) := by
  have fits : ∀ (row : ReportRow) (i : Nat) (f : CellFamily),
      ((row.withStartRank types x).rank i).fits f = ((row.withStartRank types y).rank i).fits f := by
    intro row i f
    rcases ReportRow.rank_withStartRank types i with same | same
    · rw [same, same]
      split
      · rw [Cell.fits_float number, Cell.fits_float number']
      · rfl
    · rw [same, same]
  unfold haveOrder
  simp only [List.all_map, Function.comp_def, fits]
  rfl

/-- Rows are sorted alike whichever number stands for their starting levels. -/
lemma sortRows_withStartRank (types : List ColumnType) (number : x.isNaN = false) (number' : y.isNaN = false)
    (keys : List SortKey) (rows : List ReportRow) :
    Corresponds (fun a b => ∃ sorted : List ReportRow, a = sorted.map (ReportRow.withStartRank types x) ∧
        b = sorted.map (ReportRow.withStartRank types y))
      (sortRows keys (rows.map (ReportRow.withStartRank types x)))
      (sortRows keys (rows.map (ReportRow.withStartRank types y))) := by
  unfold sortRows
  rw [haveOrder_withStartRank number' number]
  split
  · have ordered : ∀ z, (rows.map (ReportRow.withStartRank types z)).mergeSort
        (fun a b => ReportRow.compare keys a b != .gt) =
          (rows.mergeSort fun a b => ReportRow.compare keys (a.withStartRank types x) (b.withStartRank types x) !=
            .gt).map (ReportRow.withStartRank types z) := by
      intro z
      symm
      refine List.map_mergeSort fun a _ b _ => ?_
      rw [ReportRow.compare_withStartRank (y := z)]
    exact .ok ⟨_, ordered x, ordered y⟩
  · rw [Sorting.sort_map, Sorting.sort_map, ReportRow.tryLess_withStartRank (y := y)]
    exact (Corresponds.refl _).map fun a b same => ⟨a, rfl, by rw [same]⟩

/-! ## Numbering -/

/-- A row with its groups, and with a rank in place of those of its starting levels. -/
def GroupedRow.withStartRank (types : List ColumnType) (rank : Float) (g : GroupedRow) : GroupedRow :=
  ⟨g.row.withStartRank types rank, g.groups⟩

/-- A finished row shows no rank. -/
lemma GroupedRow.finish_withStartRank (g : GroupedRow) (shown : List ColumnType) (number : Cell) :
    (g.withStartRank types x).finish shown number = g.finish shown number := by
  have cells : List.zipWith ((g.withStartRank types x).finishCell number) shown (g.withStartRank types x).row.values =
      List.zipWith (g.finishCell number) shown g.row.values := by
    refine List.ext_getElem? fun i => ?_
    simp only [withStartRank, ReportRow.withStartRank, List.getElem?_zipWith, List.getElem?_mapIdx]
    cases shown[i]? with
    | none => rfl
    | some t =>
      cases g.row.values[i]? with
      | none => rfl
      | some v =>
        simp only [Option.map_some]
        split <;> cases t <;> rfl
  unfold finish
  rw [cells]
  rfl

/-- Rows are numbered alike whichever rank stands for their starting levels. -/
lemma NumberingRules.number_withStartRank (rules : NumberingRules) (lookup : GroupLookup) (batch count : Nat)
    (known : List GroupedRow) (rest : List ReportRow) :
    rules.number lookup batch count (known.map (GroupedRow.withStartRank types x))
        (rest.map (ReportRow.withStartRank types x)) = rules.number lookup batch count known rest := by
  fun_induction NumberingRules.number rules lookup batch count known rest with
  | case1 => simp [number]
  | case2 count g known rest done => rw [List.map_cons, number, if_pos done]
  | case3 count g known rest notDone passes rows asked result ih =>
    rw [result] at ih
    rw [List.map_cons, number, if_neg notDone, if_pos (show rules.passes (g.withStartRank types x).groups
      (g.withStartRank types x).row.name = true from passes), ih, GroupedRow.finish_withStartRank]
  | case4 count g known rest notDone counts rows asked result ih =>
    rw [result] at ih
    rw [List.map_cons, number, if_neg notDone, if_neg (show ¬ rules.passes (g.withStartRank types x).groups
      (g.withStartRank types x).row.name = true from counts), ih, GroupedRow.finish_withStartRank]
  | case5 count row rest done =>
    rw [List.map_nil, List.map_cons, number, if_pos done]
  | case6 count row rest notDone ids rows asked result ih =>
    rw [result] at ih
    have ids' : (row.withStartRank types x :: (rest.map (ReportRow.withStartRank types x)).take batch).map
        ReportRow.id = ids := by
      rw [← List.map_take, List.map_cons, List.map_map]
      rfl
    have looked : (row.withStartRank types x :: (rest.map (ReportRow.withStartRank types x)).take batch).map
        (GroupedRow.ofLookup (lookup ids)) =
          ((row :: rest.take batch).map (GroupedRow.ofLookup (lookup ids))).map (GroupedRow.withStartRank types x) := by
      rw [← List.map_take, ← List.map_cons, List.map_map, List.map_map]
      rfl
    rw [List.map_nil, List.map_cons, number, if_neg notDone]
    simp only [ids', looked, ← List.map_drop, ih]

/-- Rows are numbered alike, with the same look-ups and failures, whichever rank stands for their starting levels. -/
lemma NumberingRules.apply_withStartRank (rules : NumberingRules) (groups : GroupSource) (known : List GroupedRow)
    (rest : List ReportRow) :
    rules.apply groups (known.map (GroupedRow.withStartRank types x)) (rest.map (ReportRow.withStartRank types x)) =
      rules.apply groups known rest := by
  unfold apply
  rw [List.length_map, number_withStartRank]

end

/-! ## Reports -/

variable {x y : Float}

/-- The types of the columns of a layout. -/
def Layout.types (l : Layout) : List ColumnType := l.columns.map (·.column.type)

/-- Groups are filled in beside starting levels. -/
lemma GroupedRow.withGroupCells_withStartRank (g : GroupedRow) (types : List ColumnType) :
    (g.withStartRank types x).withGroupCells types = (g.withGroupCells types).withStartRank types x := by
  refine congrArg (fun values => ({ g.row with values := values } : ReportRow)) ?_
  refine List.ext_getElem? fun i => ?_
  simp only [withStartRank, ReportRow.withStartRank, withGroupCells, List.getElem?_zipWith, List.getElem?_mapIdx]
  cases types[i]? with
  | none => rfl
  | some t =>
    cases g.row.values[i]? with
    | none => rfl
    | some v =>
      simp only [Option.map_some]
      by_cases start : t = .level .start
      · subst start
        rfl
      · simp only [Option.some.injEq, if_neg start]

namespace Layout

variable {l l' : Layout} {r r' : Request} {groups : GroupSource}

/-- Rows are brought into order alike whichever number stands for their starting levels. -/
lemma ordered_withStartRank (number : x.isNaN = false) (number' : y.isNaN = false) (rows : List ReportRow) :
    Traced.Agree (fun a b => ∃ (known : List GroupedRow) (rest : List ReportRow),
        a = (known.map (GroupedRow.withStartRank l.types x), rest.map (ReportRow.withStartRank l.types x)) ∧
        b = (known.map (GroupedRow.withStartRank l.types y), rest.map (ReportRow.withStartRank l.types y)))
      (l.ordered r groups (rows.map (ReportRow.withStartRank l.types x)))
      (l.ordered r groups (rows.map (ReportRow.withStartRank l.types y))) := by
  have ids : ∀ z, (rows.map (ReportRow.withStartRank l.types z)).map ReportRow.id = rows.map ReportRow.id := by
    intro z
    rw [List.map_map]
    rfl
  unfold ordered
  simp only [ids, List.isEmpty_map]
  split
  · refine (Traced.Agree.refl _).bind fun _ _ _ => ?_
    refine (Traced.Agree.refl _).bind fun _ _ _ => ?_
    refine Traced.Agree.logAll_bind ?_
    have filled : ∀ z, (rows.map (ReportRow.withStartRank l.types z)).map (fun row =>
        (GroupedRow.ofLookup (groups.lookup (rows.map ReportRow.id)) row).withGroupCells l.types) =
          (rows.map fun row => (GroupedRow.ofLookup (groups.lookup (rows.map ReportRow.id)) row).withGroupCells
            l.types).map (ReportRow.withStartRank l.types z) := by
      intro z
      rw [List.map_map, List.map_map]
      exact List.map_congr_left fun row _ => GroupedRow.withGroupCells_withStartRank
        (GroupedRow.ofLookup (groups.lookup (rows.map ReportRow.id)) row) l.types
    have sorted := sortRows_withStartRank l.types number number' r.sortKeys
      (rows.map fun row => (GroupedRow.ofLookup (groups.lookup (rows.map ReportRow.id)) row).withGroupCells l.types)
    rw [← filled, ← filled] at sorted
    refine (Traced.Agree.result sorted.mapError).bind ?_
    rintro _ _ ⟨sorted, rfl, rfl⟩
    refine .pure ⟨sorted.map (GroupedRow.ofLookup (groups.lookup (rows.map ReportRow.id))), [], ?_, ?_⟩
    all_goals
      rw [List.map_map, List.map_map]
      rfl
  · refine Traced.Agree.logAll_bind ?_
    refine (Traced.Agree.result (sortRows_withStartRank l.types number number' _ _).mapError).bind ?_
    rintro _ _ ⟨sorted, rfl, rfl⟩
    exact .pure ⟨[], sorted, rfl, rfl⟩

/-- How rows are brought into order depends on the columns and the keys only. -/
lemma ordered_congr (columns : l.columns = l'.columns) (asked : r.columns = r'.columns)
    (orderBy : r.orderBy = r'.orderBy) (rows : List ReportRow) :
    l.ordered r groups rows = l'.ordered r' groups rows := by
  have position : r.position? = r'.position? := by
    unfold Request.position? Request.columnIds
    rw [asked]
  unfold ordered Request.unknownKeys Request.sortsByGroups Request.sortKeys
  rw [columns, position, orderBy, asked]

/-- Two reports agree when their rows do, whichever numbers stand for the starting levels. -/
lemma report_agree (columns : l.columns = l'.columns) (asked : r.columns = r'.columns)
    (orderBy : r.orderBy = r'.orderBy) (rules : NumberingRules) {raw raw' : List SourceRow}
    (levelled : Traced.Agree (fun rows rows' => ∃ (base : List ReportRow) (x y : Float),
        x.isNaN = false ∧ y.isNaN = false ∧
        rows.map (·.report l r.window) = base.map (ReportRow.withStartRank l.types x) ∧
        rows'.map (·.report l' r'.window) = base.map (ReportRow.withStartRank l.types y))
      (l.levelled r raw) (l'.levelled r' raw')) :
    Traced.Agree Eq (l.report r rules groups raw) (l'.report r' rules groups raw') := by
  unfold report
  refine levelled.bind ?_
  rintro rows rows' ⟨base, x, y, number, number', here, there⟩
  have lacks : l.lacksLabels r = l'.lacksLabels r' := by
    unfold lacksLabels
    rw [columns, asked]
  rw [here, there, ← lacks, ← ordered_congr columns asked orderBy]
  split
  · exact Traced.Agree.fail _
  · refine (ordered_withStartRank number number' base).bind ?_
    rintro _ _ ⟨known, rest, rfl, rfl⟩
    simp only [NumberingRules.apply_withStartRank, List.length_map]
    refine (Traced.Agree.refl _).bind ?_
    rintro finished _ rfl
    refine Traced.Agree.logAll_bind ?_
    exact Traced.Agree.refl _

end Layout

end ActivityReport
