import ActivityReport.Proofs.Report.Precedence
import ActivityReport.Proofs.Report.Provenance

/-!
# The order of rows

Rows such as a database returns are compared as the order of the request asks for (`Request.Precedes`): the comparison of
two of them decides which comes first and never fails (`Service.tryLess_sortedRow`), since in each column all of them
are ranked by values of one family (`Service.hasValue_rank`). So sorting gives the rows in this order, in whichever
order they came (`Service.sortRows_of_levelled`), and so do the rows of a report come (`Service.exists_order_of_ordered`).
-/

namespace ActivityReport

open Traced (ComesTo comesTo_pure comesTo_result)

/-! ## Rows as a database returns them -/

/-- Whether a row is such as a database returns it: the actor is a number, the name a text or missing, and no cell is
not-a-number. -/
structure SourceRow.IsReturned (row : SourceRow) : Prop where
  id : ∃ n, row.id = .int n
  name : row.name = .null ∨ ∃ s, row.name = .text s
  number : ∀ label, (row.cell label).isNaN = false

/-- Whether a row is such as a database returns it, and its levels have been measured. -/
structure LevelledRow.IsMeasured (row : LevelledRow) : Prop where
  returned : row.raw.IsReturned
  progress : ∀ s, Number.isWithinDoubles (row.levelAt s).progress = true

/-- Levels that have been measured on a ladder lie within the doubles. -/
lemma SourceRow.isWithinDoubles_of_withLevels {raw : SourceRow} {ladder : Option Ladder} {levels : List LevelSnapshot}
    {row : LevelledRow} (h : raw.withLevels ladder levels = .ok row) (s : Option LevelSnapshot) :
    Number.isWithinDoubles (row.levelAt s).progress = true := by
  have none : Number.isWithinDoubles Level.none.progress = true := by decide
  cases s with
  | none => exact none
  | some s =>
    show Number.isWithinDoubles (((row.levels.find? (·.1 == s)).map Prod.snd).getD Level.none).progress = true
    cases found : row.levels.find? (·.1 == s) with
    | none => exact none
    | some entry =>
      obtain ⟨list, each, made⟩ := bind_eq_ok.1 h
      rw [← Except.ok.inj made] at found
      obtain ⟨s', -, own⟩ := (mem_of_mapM_eq_ok each).1 (List.mem_of_find?_eq_some found)
      obtain ⟨level, measured, rfl⟩ := map_eq_ok.1 own
      obtain ⟨_, -, measured⟩ := bind_eq_ok.1 measured
      obtain ⟨_, -, measured⟩ := bind_eq_ok.1 measured
      obtain ⟨_, -, measured⟩ := bind_eq_ok.1 measured
      exact Ladder.isWithinDoubles_of_measure measured

/-- The levels of a row are measured on the ladder. -/
lemma SourceRow.IsReturned.isMeasured {raw : SourceRow} (returned : raw.IsReturned) {ladder : Option Ladder}
    {levels : List LevelSnapshot} {row : LevelledRow} (h : raw.withLevels ladder levels = .ok row) :
    row.IsMeasured where
  returned := (raw_of_withLevels h).symm ▸ returned
  progress := isWithinDoubles_of_withLevels h

namespace Cell

/-- Whether a cell is compared by a value that may be missing. -/
def HasValue (c : Cell) : Option SortValue → Prop
  | none => c = null
  | some x => c.StandsFor x

/-- A number is compared by its place. -/
lemma hasValue_ofNumber {n : Number.Numeral} (number : ∀ x, n = .real x → x.isNaN = false) :
    (ofNumber n).HasValue (SortValue.ofNumeral n) := by
  cases n with
  | whole n => exact .number (c := .int n) rfl rfl
  | real x =>
    obtain ⟨p, place⟩ := Number.exists_place_iff.2 (number x rfl)
    show (float x).HasValue ((Number.Numeral.real x).place?.map .number)
    rw [place]
    exact .number rfl place

/-- A level is compared by its place in the order of levels. -/
lemma hasValue_shownSortOrder {level : Level} (within : Number.isWithinDoubles level.progress = true) :
    (float level.shownSortOrder).HasValue (SortValue.ofNumeral (.real level.shownSortOrder)) := by
  refine hasValue_ofNumber (n := .real _) ?_
  rintro _ ⟨⟩
  exact Level.isNaN_shownSortOrder within

lemma hasValue_toNumeric {c : Cell} (number : c.isNaN = false) :
    c.toNumeric.HasValue (c.toNumber?.bind SortValue.ofNumeral) := by
  have numeral : ∀ n, c.toNumber? = some n → (ofNumber n).HasValue (SortValue.ofNumeral n) := by
    intro n read
    refine hasValue_ofNumber ?_
    rintro x rfl
    exact isNaN_of_toNumber? number read
  have shown : (ofOption ofNumber c.toNumber?).HasValue (c.toNumber?.bind SortValue.ofNumeral) := by
    cases read : c.toNumber? with
    | none => rfl
    | some n => exact numeral n read
  cases c with
  | minusNaN => cases number
  | _ => exact shown

lemma hasValue_ofDate (d : Option Date) : (ofOption date d).HasValue (d.map .day) := by
  cases d with
  | none => rfl
  | some d => exact .day d

/-- Texts are compared without regard to case in either way. -/
lemma order_text (s t : String) :
    (text s).order (text t) = compareFolded s t ∧ (text s).tryCompare (text t) = .ok (compareFolded s t) := ⟨rfl, rfl⟩

/-- Whole numbers are compared by size in either way. -/
lemma order_int (m n : Int) :
    (int m).order (int n) = compare m n ∧ (int m).tryOrder (int n) = .ok (compare m n) :=
  ⟨rfl, ((StandsFor.number (c := int m) rfl rfl).tryCompare (StandsFor.number (c := int n) rfl rfl) rfl).1⟩

/-- A cell with a value of a family fits the family. -/
lemma HasValue.fits {a : Cell} {x : Option SortValue} {f : CellFamily} (h : a.HasValue x)
    (own : ∀ x' ∈ x, x'.family = f) : a.fits f = true := by
  cases x with
  | none =>
    obtain rfl : a = null := h
    rfl
  | some x =>
    have h : a.StandsFor x := h
    unfold Cell.fits
    rw [h.family.1, h.family.2, own x rfl]
    exact beq_self_eq_true _

end Cell

/-! ## Orderings -/

/-- Whether an ordering tells which of two comes before the other, and when they are tied. -/
def Decides {α : Type} (before tied : α → α → Prop) (a b : α) : Ordering → Prop
  | .lt => before a b
  | .eq => tied a b
  | .gt => before b a

/-- Whether neither of two comes before the other. -/
def Tied {α : Type} (before : α → α → Prop) (a b : α) : Prop := ¬ before a b ∧ ¬ before b a

namespace Decides

variable {α β : Type} {before : β → β → Prop} {value : α → β} {later : α → α → Prop} {a b : α} {o o' : Ordering}

lemma of_compares [LT β] {x y : β} (h : o.Compares x y) : Decides (· < ·) Eq x y o := by
  cases o <;> exact h

/-- An ordering that leaves no other tie than the same value tells of no tie. -/
lemma tied (h : Decides before Eq (value a) (value b) o) (irrefl : ∀ x, ¬ before x x) :
    Decides (fun a b => before (value a) (value b)) (Tied fun a b => before (value a) (value b)) a b o := by
  cases o with
  | lt | gt => exact h
  | eq =>
    have same : value a = value b := h
    constructor <;> dsimp only <;> rw [same] <;> exact irrefl _

/-- Two orderings in turn decide by the value first. -/
lemma byTurns (irrefl : ∀ x, ¬ before x x) (first : Decides before Eq (value a) (value b) o)
    (next : Decides later (Tied later) a b o') :
    Decides (ByTurns before value later) (Tied (ByTurns before value later)) a b (o.then o') := by
  cases o with
  | lt | gt => exact Or.inl first
  | eq =>
    have same : value a = value b := first
    show Decides _ _ a b o'
    cases o' with
    | lt => exact Or.inr ⟨same, next⟩
    | gt => exact Or.inr ⟨same.symm, next⟩
    | eq =>
      refine ⟨fun h => h.elim ?_ fun both => next.1 both.2, fun h => h.elim ?_ fun both => next.2 both.2⟩
      · exact same ▸ irrefl _
      · exact same ▸ irrefl _

end Decides

/-- Cells with values of one family are compared as the values are. -/
lemma Cell.HasValue.tryCompareCells (descending : Bool) {a b : Cell} {x y : Option SortValue} (ha : a.HasValue x)
    (hb : b.HasValue y) (same : ∀ x' ∈ x, ∀ y' ∈ y, x'.family = y'.family) :
    ActivityReport.tryCompareCells descending a b = .ok (compareCells descending a b) ∧
      Decides (SortValue.Comes descending) Eq x y (compareCells descending a b) := by
  cases x with
  | none =>
    obtain rfl : a = null := ha
    cases y with
    | none =>
      obtain rfl : b = null := hb
      exact ⟨rfl, rfl⟩
    | some y =>
      have hb : b.StandsFor y := hb
      unfold ActivityReport.tryCompareCells compareCells
      rw [hb.family.1]
      exact ⟨rfl, trivial⟩
  | some x =>
    have ha : a.StandsFor x := ha
    cases y with
    | none =>
      obtain rfl : b = null := hb
      unfold ActivityReport.tryCompareCells compareCells
      rw [ha.family.1]
      exact ⟨rfl, trivial⟩
    | some y =>
      have hb : b.StandsFor y := hb
      obtain ⟨tried, tells⟩ := ha.tryCompare hb (same x rfl y rfl)
      unfold ActivityReport.tryCompareCells compareCells
      rw [ha.family.1, hb.family.1]
      dsimp only
      rw [tried]
      refine ⟨rfl, ?_⟩
      revert tells
      cases a.order b <;> cases descending <;> intro tells
      case eq.false | eq.true => exact congrArg some tells
      all_goals exact tells

/-! ## Rows as they are sorted -/

namespace Request

variable {r : Request} {key : OrderBy} {rest : List OrderBy}

/-- The columns that some keys name. -/
def positions (r : Request) (keys : List OrderBy) : List SortKey :=
  keys.filterMap fun o => (r.position? o.columnId).map fun i => ⟨i, o.descending⟩

lemma positions_cons_none (h : r.position? key.columnId = none) : r.positions (key :: rest) = r.positions rest := by
  unfold positions
  rw [List.filterMap_cons, h]
  rfl

lemma positions_cons_some {i : Nat} (h : r.position? key.columnId = some i) :
    r.positions (key :: rest) = ⟨i, key.descending⟩ :: r.positions rest := by
  unfold positions
  rw [List.filterMap_cons, h]
  rfl

end Request

/-- The row that is sorted: the row of the report, with its groups filled in where the order asks for groups. -/
def Layout.sortedRow (l : Layout) (r : Request) (groups : Cell → List String) (row : LevelledRow) : ReportRow :=
  if r.sortsByGroups then
    (GroupedRow.ofLookup (fun id => (groups id).map .text) (row.report l r.window)).withGroupCells
      (l.columns.map (·.column.type))
  else row.report l r.window

/-- Rows get their levels one by one. -/
lemma Layout.map_raw_of_withLevels {l : Layout} {raw : List SourceRow} {all : List LevelledRow}
    (h : l.withLevels raw = .ok all) : all.map (·.raw) = raw := by
  have each := mapM_eq_ok.1 h
  clear h
  induction each with
  | nil => rfl
  | cons first _ ih => rw [List.map_cons, SourceRow.raw_of_withLevels first, ih]

/-- The groups that a store tells of are texts. -/
lemma Service.exists_texts (s : Store) (ids : List Cell) :
    ∃ groups : Cell → List String, (groupSource s).lookup ids = fun id => (groups id).map .text :=
  ⟨fun id => id.int?.elim [] (s.fetchGroups Database.groupChunk (ids.filterMap Cell.int?)).groupsOf, rfl⟩

namespace Layout

variable {l : Layout} {r : Request} {groups : Cell → List String} {rows : List LevelledRow}

/-- Where the order asks for groups the rows that are sorted have them filled in. -/
lemma map_sortedRow_of_asked (asked : r.sortsByGroups = true) :
    rows.map (l.sortedRow r groups) = (rows.map (·.report l r.window)).map fun row =>
      (GroupedRow.ofLookup (fun id => (groups id).map .text) row).withGroupCells (l.columns.map (·.column.type)) := by
  rw [List.map_map]
  exact List.map_congr_left fun row _ => if_pos asked

/-- Where no groups are asked for, or there are no rows, the rows of the report are sorted as they are. -/
lemma map_sortedRow_of_not_asked
    (notAsked : ¬ (r.sortsByGroups && !(rows.map (·.report l r.window)).isEmpty) = true) :
    rows.map (l.sortedRow r groups) = rows.map (·.report l r.window) := by
  refine List.map_congr_left fun row listed => if_neg fun asked => notAsked ?_
  rw [asked, Bool.true_and, List.isEmpty_map, List.isEmpty_eq_false_iff.2 (List.ne_nil_of_mem listed)]
  rfl

/-- The rows that are brought into order are sorted, with the groups that were looked up for them. -/
lemma sortRows_of_ordered {source : GroupSource} {known : List GroupedRow} {rest : List ReportRow}
    (texts : source.lookup (rows.map (·.raw.id)) = fun id => (groups id).map .text)
    (h : (l.ordered r source (rows.map (·.report l r.window))).ComesTo (known, rest)) :
    sortRows r.sortKeys (rows.map (l.sortedRow r groups)) = .ok (known.map GroupedRow.row ++ rest) := by
  have ids : (rows.map (·.report l r.window)).map ReportRow.id = rows.map (·.raw.id) := List.map_map
  rcases cases_of_ordered h with ⟨notAsked, rfl, sorts⟩ | ⟨asked, rfl, _, sorted, rfl, sorts, rfl⟩
  · rw [map_sortedRow_of_not_asked notAsked, sorts]
    rfl
  · rw [ids, texts] at sorts ⊢
    rw [map_sortedRow_of_asked asked, sorts, List.append_nil, List.map_map]
    exact congrArg Except.ok (List.map_id sorted).symm

end Layout

/-- A row that is sorted has the values of the row, and its groups where they are asked for. -/
lemma Layout.getElem?_values_sortedRow (l : Layout) (r : Request) (groups : Cell → List String) (row : LevelledRow)
    (i : Nat) :
    (l.sortedRow r groups row).values[i]? = l.columns[i]?.map fun c =>
      if r.sortsByGroups = true ∧ c.column.type = .userGroups then
        ⟨.list ((groups row.raw.id).map .text), .list ((groups row.raw.id).map .text)⟩
      else c.value r.window row := by
  have values : (row.report l r.window).values[i]? = l.columns[i]?.map (·.value r.window row) := List.getElem?_map
  unfold sortedRow
  split
  · rename_i asked
    simp only [asked, true_and]
    unfold GroupedRow.withGroupCells
    dsimp only
    rw [List.getElem?_zipWith, List.getElem?_map, show (GroupedRow.ofLookup _ (row.report l r.window)).row.values[i]? = _
      from values]
    cases l.columns[i]? with
    | none => rfl
    | some c =>
      dsimp only [Option.map_some]
      cases c.column.type <;> rfl
  · rename_i notAsked
    rw [values]
    cases l.columns[i]? with
    | none => rfl
    | some c => exact congrArg some (if_neg fun both => notAsked both.1).symm

/-- Where a row that is sorted has groups it is ranked by them, elsewhere by its own value. -/
lemma Layout.rank_sortedRow (l : Layout) (r : Request) (groups : Cell → List String) (row : LevelledRow) (i : Nat) :
    (l.sortedRow r groups row).rank i = (l.columns[i]?.map fun c =>
      if r.sortsByGroups = true ∧ c.column.type = .userGroups then .list ((groups row.raw.id).map .text)
      else (c.value r.window row).rank).getD .null := by
  rw [ReportRow.rank, getElem?_values_sortedRow, Option.map_map]
  refine congrArg (Option.getD · _) (congrFun (congrArg Option.map (funext fun c => ?_)) _)
  exact apply_ite ColumnValue.rank _ _ _

namespace Service

variable {r : Request} {p : JoinPlan} {q : Query} {ladder : Option Ladder} {groups : Cell → List String}
  {row : LevelledRow}

/-- A name that is missing or empty is shown as an empty text. -/
lemma shownName_eq (returned : row.raw.IsReturned) : row.raw.shownName = .text row.nameText := by
  unfold LevelledRow.nameText SourceRow.shownName
  rcases returned.name with name | ⟨s, name⟩
  · rw [name]
    rfl
  · rw [name]
    split
    · rfl
    · rename_i empty
      have empty : s = "" := by simpa [Cell.isFilled] using empty
      rw [empty]
      rfl

/-- The row that is sorted has the actor and the name of the row. -/
lemma names_sortedRow (l : Layout) (r : Request) (groups : Cell → List String) (returned : row.raw.IsReturned) :
    (l.sortedRow r groups row).id = .int row.actor ∧ (l.sortedRow r groups row).name = .text row.nameText := by
  have own : (l.sortedRow r groups row).id = row.raw.id ∧
      (l.sortedRow r groups row).name = row.raw.shownName := by
    unfold Layout.sortedRow
    split <;> exact ⟨rfl, rfl⟩
  obtain ⟨n, id⟩ := returned.id
  rw [own.1, own.2, LevelledRow.actor, id]
  exact ⟨rfl, shownName_eq returned⟩

/-- In a column without groups a row is compared by its value there. -/
lemma hasValue_rank_value (measured : row.IsMeasured) (w : Window) {c : Column} (i : Nat)
    (noGroups : c.type ≠ .userGroups) :
    (LabelledColumn.value ⟨c, (c.expression? w).map fun _ => .column i⟩ w row).rank.HasValue
      (row.sortValue w groups i c.type) := by
  have read := Cell.hasValue_toNumeric (measured.returned.number (.column i))
  have day := Cell.hasValue_ofDate (row.raw.cell (.column i)).toDate?
  unfold Column.expression? LabelledColumn.value LabelledColumn.shown
  dsimp only
  cases type : c.type with
  | rowNumber => rfl
  | userGroups => exact absurd type noGroups
  | userName =>
    show row.raw.shownName.StandsFor (.text (Text.caseFold row.nameText))
    rw [shownName_eq measured.returned]
    exact .text _
  | level moment => cases moment <;> exact Cell.hasValue_shownSortOrder (measured.progress _)
  | count counter span ratio form => cases ratio <;> exact read
  | averagePerDay | activityDays | daysSinceRegistration => exact read
  | milestone =>
    dsimp only
    cases c.milestones.isEmpty <;> exact read
  | logDate | activityDate | registrationDate => exact day

/-- At each position that the order asks for, the row that is sorted is compared by the value of the row there. -/
lemma hasValue_rank (ladder : Option Ladder) (groups : Cell → List String) (built : Query.ofPlan p r = .ok q)
    (measured : row.IsMeasured) {key : OrderBy} {i : Nat} (listed : key ∈ r.orderBy)
    (position : r.position? key.columnId = some i) :
    (((layout r q ladder).sortedRow r groups row).rank i).HasValue (r.valueAt groups i row) := by
  rw [Layout.rank_sortedRow, getElem?_columns built]
  unfold Request.valueAt
  cases own : r.columns[i]? with
  | none => rfl
  | some c =>
    by_cases isGroups : c.type = .userGroups
    · have asked : r.sortsByGroups = true := by
        refine List.any_eq_true.2 ⟨key, listed, ?_⟩
        rw [position, Option.bind_some, own, Option.any_some, isGroups]
        rfl
      show (if r.sortsByGroups = true ∧ c.type = .userGroups then _ else _ : Cell).HasValue _
      rw [if_pos ⟨asked, isGroups⟩, Option.bind_some, isGroups]
      exact .texts _
    · show (if r.sortsByGroups = true ∧ c.type = .userGroups then _ else _ : Cell).HasValue _
      rw [if_neg fun both => isGroups both.2]
      exact hasValue_rank_value measured r.window i isGroups

/-! ## Comparing rows -/

variable {a b : LevelledRow}

/-- Rows are compared by names and actors as the names without regard to case and the actors are. -/
lemma compareNames_sortedRow (l : Layout) (r : Request) (groups : Cell → List String) (ha : a.raw.IsReturned)
    (hb : b.raw.IsReturned) :
    (l.sortedRow r groups a).tryCompareNames (l.sortedRow r groups b) =
        .ok ((l.sortedRow r groups a).compareNames (l.sortedRow r groups b)) ∧
      Decides (r.ComesBy groups []) (Tied (r.ComesBy groups [])) a b
        ((l.sortedRow r groups a).compareNames (l.sortedRow r groups b)) := by
  obtain ⟨idA, nameA⟩ := names_sortedRow l r groups ha
  obtain ⟨idB, nameB⟩ := names_sortedRow l r groups hb
  have texts : (Cell.compareFolded a.nameText b.nameText).Compares (Text.caseFold a.nameText)
      (Text.caseFold b.nameText) := compare_compares _ _
  have numbers : (compare a.actor b.actor).Compares a.actor b.actor := compare_compares _ _
  obtain ⟨order, tried⟩ := Cell.order_text a.nameText b.nameText
  obtain ⟨order', tried'⟩ := Cell.order_int a.actor b.actor
  unfold ReportRow.tryCompareNames ReportRow.compareNames
  rw [idA, idB, nameA, nameB, order, order', tried, tried']
  generalize Cell.compareFolded a.nameText b.nameText = byName at texts
  generalize compare a.actor b.actor = byActor at numbers
  refine ⟨by cases byName <;> rfl, Decides.byTurns lt_irrefl (Decides.of_compares texts) ?_⟩
  exact Decides.tied (Decides.of_compares numbers) lt_irrefl

/-- Rows that are compared by some keys in turn, by names and by actors, are in the order that the keys ask for. -/
lemma compare_sortedRow (ladder : Option Ladder) (groups : Cell → List String) (built : Query.ofPlan p r = .ok q)
    (ha : a.IsMeasured) (hb : b.IsMeasured) {keys : List OrderBy} (listed : ∀ key ∈ keys, key ∈ r.orderBy) :
    let rowA := (layout r q ladder).sortedRow r groups a
    let rowB := (layout r q ladder).sortedRow r groups b
    rowA.tryCompareBy rowB (r.positions keys) = .ok (rowA.compareBy rowB (r.positions keys)) ∧
      Decides (r.ComesBy groups keys) (Tied (r.ComesBy groups keys)) a b (rowA.compare (r.positions keys) rowB) := by
  intro rowA rowB
  induction keys with
  | nil => exact ⟨rfl, (compareNames_sortedRow _ r groups ha.returned hb.returned).2⟩
  | cons key rest ih =>
    obtain ⟨own, others⟩ := List.forall_mem_cons.1 listed
    obtain ⟨tried, decides⟩ := ih others
    unfold Request.ComesBy
    cases position : r.position? key.columnId with
    | none =>
      rw [Request.positions_cons_none position]
      exact ⟨tried, decides⟩
    | some i =>
      rw [Request.positions_cons_some position]
      obtain ⟨triedCells, cells⟩ := (hasValue_rank ladder groups built ha own position).tryCompareCells key.descending
        (hasValue_rank ladder groups built hb own position) Request.family_valueAt
      constructor
      · rw [ReportRow.tryCompareBy, ReportRow.compareBy, triedCells, tried]
        cases compareCells key.descending (rowA.rank i) (rowB.rank i) <;> rfl
      · unfold ReportRow.compare
        rw [ReportRow.compareBy, Ordering.then_assoc]
        dsimp only
        exact Decides.byTurns SortValue.not_comes_self cells decides

/-- The comparison of two rows tells which comes first in the order of the request. -/
lemma compare_iff (ladder : Option Ladder) (groups : Cell → List String) (built : Query.ofPlan p r = .ok q)
    (ha : a.IsMeasured) (hb : b.IsMeasured) :
    let order := ((layout r q ladder).sortedRow r groups a).compare r.sortKeys ((layout r q ladder).sortedRow r groups b)
    (order = .lt ↔ r.Precedes groups a b) ∧ (order = .gt ↔ r.Precedes groups b a) := by
  intro order
  have decides : Decides (r.Precedes groups) (Tied (r.Precedes groups)) a b order :=
    (compare_sortedRow ladder groups built ha hb fun _ h => h).2
  have asymm : ∀ {a b}, r.Precedes groups a b → ¬ r.Precedes groups b a := fun first later =>
    Request.not_comesBy_self _ _ (Request.ComesBy.trans first later)
  generalize order = o at decides ⊢
  cases o with
  | lt => exact ⟨⟨fun _ => decides, fun _ => rfl⟩, nofun, fun later => absurd later (asymm decides)⟩
  | eq => exact ⟨⟨nofun, fun first => absurd first decides.1⟩, nofun, fun later => absurd later decides.2⟩
  | gt => exact ⟨⟨nofun, fun first => absurd first (asymm decides)⟩, fun _ => decides, fun _ => rfl⟩

/-- The comparison of two rows never fails, and decides which comes first. -/
lemma tryLess_sortedRow (ladder : Option Ladder) (groups : Cell → List String) (built : Query.ofPlan p r = .ok q)
    (ha : a.IsMeasured) (hb : b.IsMeasured) :
    ∃ before, ReportRow.tryLess r.sortKeys ((layout r q ladder).sortedRow r groups a)
      ((layout r q ladder).sortedRow r groups b) = .ok before ∧ (before = true ↔ r.Precedes groups a b) := by
  have tried := (compare_sortedRow ladder groups built ha hb fun _ h => h).1
  have names := (compareNames_sortedRow (layout r q ladder) r groups ha.returned hb.returned).1
  have first := (compare_iff ladder groups built ha hb).1
  generalize (layout r q ladder).sortedRow r groups a = rowA at *
  generalize (layout r q ladder).sortedRow r groups b = rowB at *
  have tried : rowA.tryCompareBy rowB r.sortKeys = .ok (rowA.compareBy rowB r.sortKeys) := tried
  refine ⟨rowA.compare r.sortKeys rowB == Ordering.lt, ?_, beq_iff_eq.trans first⟩
  unfold ReportRow.tryLess ReportRow.compare
  rw [tried, names]
  cases rowA.compareBy rowB r.sortKeys <;> rfl

/-! ## Sorting -/

/-- What is mapped comes in another order when what it is made of does. -/
lemma exists_perm_of_perm_map {α β : Type} {f : α → β} {list : List α} {input : List β} (h : input.Perm (list.map f)) :
    ∃ list' : List α, list'.Perm list ∧ input = list'.map f := by
  have own : List.Forall₂ (fun b a => b = f a) (list.map f) list :=
    List.forall₂_map_left_iff.2 (List.forall₂_same.2 fun _ _ => rfl)
  obtain ⟨list', made, perm⟩ := List.perm_comp_forall₂ h own
  refine ⟨list', perm, ?_⟩
  clear h own perm
  induction made with
  | nil => rfl
  | cons first _ ih => rw [first, ih, List.map_cons]

variable {rows : List LevelledRow}

/-- Rows such as a database returns have one order. -/
lemma haveOrder_sortedRow (built : Query.ofPlan p r = .ok q) (measured : ∀ row ∈ rows, row.IsMeasured) :
    haveOrder r.sortKeys (rows.map ((layout r q ladder).sortedRow r groups)) = true := by
  refine Bool.and_eq_true_iff.2 ⟨List.all_eq_true.2 fun key listed => ?_, List.all_eq_true.2 fun row listed => ?_⟩
  · obtain ⟨o, asked, named⟩ := List.mem_filterMap.1 listed
    obtain ⟨i, position, rfl⟩ := Option.map_eq_some_iff.1 named
    have all : ∀ f : CellFamily, f ∈ CellFamily.all := by
      intro f
      cases f <;> decide
    refine List.any_eq_true.2 ⟨(r.columns[i]?.map (·.type.family)).getD .number, all _, List.all_eq_true.2 ?_⟩
    intro report listed
    obtain ⟨row, known, rfl⟩ := List.mem_map.1 listed
    refine (hasValue_rank ladder groups built (measured row known) asked position).fits fun x own => ?_
    obtain ⟨c, column, own⟩ := Option.bind_eq_some_iff.1 own
    rw [column]
    exact LevelledRow.family_sortValue own
  · obtain ⟨row, known, rfl⟩ := List.mem_map.1 listed
    obtain ⟨id, name⟩ := names_sortedRow (layout r q ladder) r groups (measured row known).returned
    rw [id, name]
    rfl

open Classical in
/-- Rows such as a database returns are sorted in the order of the request. -/
lemma sortRows_sortedRow (built : Query.ofPlan p r = .ok q) (measured : ∀ row ∈ rows, row.IsMeasured) :
    sortRows r.sortKeys (rows.map ((layout r q ladder).sortedRow r groups)) =
      .ok ((rows.mergeSort fun a b => ¬ r.Precedes groups b a).map ((layout r q ladder).sortedRow r groups)) := by
  unfold sortRows
  rw [if_pos (haveOrder_sortedRow built measured)]
  refine congrArg Except.ok (List.map_mergeSort fun a listed b listed' => ?_).symm
  have later := (compare_iff ladder groups built (measured a listed) (measured b listed')).2
  rw [Bool.eq_iff_iff, decide_eq_true_iff, bne_iff_ne]
  exact (not_congr later).symm

open Classical in
/-- Sorted rows are in the order of the request, and rows of different actors are sorted alike however they came. -/
lemma mergeSort_precedes (r : Request) (groups : Cell → List String) (rows : List LevelledRow)
    (actors : (rows.map LevelledRow.actor).Nodup) :
    (rows.mergeSort fun a b => ¬ r.Precedes groups b a).Pairwise (r.Precedes groups) ∧
      ∀ rows' : List LevelledRow, rows'.Perm rows → (rows'.mergeSort fun a b => ¬ r.Precedes groups b a) =
        rows.mergeSort fun a b => ¬ r.Precedes groups b a := by
  have asymm : ∀ a b, r.Precedes groups a b → ¬ r.Precedes groups b a := fun _ _ first later =>
    Request.not_comesBy_self _ _ (Request.ComesBy.trans first later)
  have inOrder : ∀ rows : List LevelledRow,
      (rows.mergeSort fun a b => ¬ r.Precedes groups b a).Pairwise fun a b => ¬ r.Precedes groups b a := by
    intro rows
    refine (List.pairwise_mergeSort ?_ ?_ rows).imp fun {a b} le => of_decide_eq_true le
    · intro a b c le le'
      simp only [decide_eq_true_eq] at le le' ⊢
      exact fun first => (Request.ComesBy.or first b).elim le' le
    · intro a b
      simp only [Bool.or_eq_true, decide_eq_true_eq]
      exact (Classical.em (r.Precedes groups b a)).symm.imp id (asymm b a)
  have perm := List.mergeSort_perm rows fun a b => ¬ r.Precedes groups b a
  constructor
  · have different := (perm.map LevelledRow.actor).nodup_iff.2 actors
    refine ((List.pairwise_map.1 different).and (inOrder rows)).imp fun {a b} both => ?_
    exact (Request.comesBy_or_comesBy_or_eq r.orderBy a b).resolve_right fun rest => rest.elim both.2 both.1
  · intro rows' same
    refine List.Perm.eq_of_pairwise ?_ (inOrder rows') (inOrder rows)
      ((List.mergeSort_perm _ _).trans (same.trans perm.symm))
    intro a b listed listed' notAfter notBefore
    have equal := (Request.comesBy_or_comesBy_or_eq r.orderBy a b).resolve_left notBefore |>.resolve_left notAfter
    have listed := same.mem_iff.1 ((List.mergeSort_perm _ _).mem_iff.1 listed)
    exact List.inj_on_of_nodup_map actors listed (perm.mem_iff.1 listed') equal

/-- The rows that are kept for their levels are measured and of different actors, when they come from rows such as a
database returns. -/
lemma measured_of_levelled {l : Layout} {raw : List SourceRow} (returned : ∀ row ∈ raw, row.IsReturned)
    (ids : (raw.map SourceRow.id).Nodup) (kept : (l.levelled r raw).ComesTo rows) :
    (∀ row ∈ rows, row.IsMeasured) ∧ (rows.map LevelledRow.actor).Nodup := by
  obtain ⟨all, levelled, rfl⟩ := Layout.rows_of_levelled kept
  have measured : ∀ row ∈ all, row.IsMeasured := by
    intro row listed
    obtain ⟨source, listed, own⟩ := (mem_of_mapM_eq_ok levelled).1 listed
    exact (returned source listed).isMeasured own
  refine ⟨fun row listed => measured row (List.mem_of_mem_filter listed), ?_⟩
  refine List.Nodup.sublist (List.filter_sublist.map _) (.of_map Cell.int ?_)
  rw [← Layout.map_raw_of_withLevels levelled, List.map_map] at ids
  have same : (all.map LevelledRow.actor).map Cell.int = all.map (SourceRow.id ∘ LevelledRow.raw) := by
    rw [List.map_map]
    refine List.map_congr_left fun row listed => ?_
    obtain ⟨n, id⟩ := (measured row listed).returned.id
    show Cell.int (row.raw.id.int?.getD 0) = row.raw.id
    rw [id]
    rfl
  rw [same]
  exact ids

/-- The rows of a request have one order, in which they are sorted however they came. -/
lemma exists_order (ladder : Option Ladder) (groups : Cell → List String) (built : Query.ofPlan p r = .ok q)
    (measured : ∀ row ∈ rows, row.IsMeasured) (actors : (rows.map LevelledRow.actor).Nodup) :
    ∃ order : List LevelledRow, order.Perm rows ∧ order.Pairwise (r.Precedes groups) ∧
      ∀ input : List ReportRow, input.Perm (rows.map ((layout r q ladder).sortedRow r groups)) →
        sortRows r.sortKeys input = .ok (order.map ((layout r q ladder).sortedRow r groups)) := by
  classical
  obtain ⟨inOrder, same⟩ := mergeSort_precedes r groups rows actors
  refine ⟨_, List.mergeSort_perm rows fun a b => ¬ r.Precedes groups b a, inOrder, fun input another => ?_⟩
  obtain ⟨rows', perm, rfl⟩ := exists_perm_of_perm_map another
  rw [sortRows_sortedRow built (fun row listed => measured row (perm.mem_iff.1 listed)), same rows' perm]

/-- The rows of a report are brought into the order of the request. -/
theorem exists_order_of_ordered (built : Query.ofPlan p r = .ok q) (measured : ∀ row ∈ rows, row.IsMeasured)
    (actors : (rows.map LevelledRow.actor).Nodup) {source : GroupSource}
    (texts : source.lookup (rows.map (·.raw.id)) = fun id => (groups id).map .text) {known : List GroupedRow}
    {rest : List ReportRow}
    (h : ((layout r q ladder).ordered r source (rows.map (·.report (layout r q ladder) r.window))).ComesTo
      (known, rest)) :
    ∃ order : List LevelledRow, order.Perm rows ∧ order.Pairwise (r.Precedes groups) ∧
      known.map GroupedRow.row ++ rest = order.map ((layout r q ladder).sortedRow r groups) := by
  obtain ⟨order, perm, inOrder, sorted⟩ := exists_order ladder groups built measured actors
  have sorts := Layout.sortRows_of_ordered texts h
  exact ⟨order, perm, inOrder, Except.ok.inj (sorts.symm.trans (sorted _ (List.Perm.refl _)))⟩

/-- Sorting puts the rows that a database returned, and that were kept for their levels, in the order of the request,
and it does so in whichever order they came: by the keys that name a column in turn, by name without regard to case
and by actor. The comparison of two of these rows decides which comes first and never fails, and the order of the
rows is strict and total. -/
theorem sortRows_of_levelled (built : Query.ofRequest r = .ok q) {raw : List SourceRow}
    (returned : ∀ row ∈ raw, row.IsReturned) (ids : (raw.map SourceRow.id).Nodup)
    (kept : ((layout r q ladder).levelled r raw).ComesTo rows) (groups : Cell → List String) :
    (∃ order : List LevelledRow, order.Perm rows ∧ order.Pairwise (r.Precedes groups) ∧
      ∀ input : List ReportRow, input.Perm (rows.map ((layout r q ladder).sortedRow r groups)) →
        sortRows r.sortKeys input = .ok (order.map ((layout r q ladder).sortedRow r groups))) ∧
    (∀ a ∈ rows, ∀ b ∈ rows, ∃ before, ReportRow.tryLess r.sortKeys ((layout r q ladder).sortedRow r groups a)
      ((layout r q ladder).sortedRow r groups b) = .ok before ∧ (before = true ↔ r.Precedes groups a b)) ∧
    IsStrictTotalOrder {row // row ∈ rows} fun a b => r.Precedes groups a b := by
  obtain ⟨p, -, built⟩ := bind_eq_ok.1 built
  obtain ⟨measured, actors⟩ := measured_of_levelled returned ids kept
  refine ⟨exists_order ladder groups built measured actors, fun a listed b listed' =>
    tryLess_sortedRow ladder groups built (measured a listed) (measured b listed'), ?_⟩
  exact {
    trichotomous := fun a b notBefore notAfter => Subtype.ext <| List.inj_on_of_nodup_map actors a.2 b.2 <|
      ((Request.comesBy_or_comesBy_or_eq r.orderBy a.1 b.1).resolve_left notBefore).resolve_left notAfter
    irrefl := fun a => Request.not_comesBy_self r.orderBy a.1
    trans := fun _ _ _ => Request.ComesBy.trans }

end Service

/-- The edits of some actors, the most first. -/
def Json.ofMostEdits : Json :=
  .object [("wikiId", .text "w"), ("columns", .list [.object [("type", .text "userName")],
      .object [("type", .text "editsSinceRegistration"), ("columnId", .text "edits")]]),
    ("orderBy", .list [.object [("columnId", .text "nowhere"), ("direction", .text "asc")],
      .object [("columnId", .text "edits"), ("direction", .text "desc")]]), ("endDate", .text "2023-12-31")]

/-- Three rows for it, one of them without edits and one without a name. -/
def SourceRow.three : List SourceRow :=
  [⟨.int 3, .text "carol", fun _ => .int 5⟩, ⟨.int 2, .text "Bob", fun _ => .null⟩, ⟨.int 7, .null, fun _ => .int 5⟩]

/-- Three rows are sorted for a request that names one column that is there and one that is not. -/
theorem Service.sortRows_of_three :
    ∃ r q, Payload.readRequest Json.ofMostEdits = .ok r ∧ Query.ofRequest r = .ok q ∧
      (∀ row ∈ SourceRow.three, row.IsReturned) ∧ (SourceRow.three.map SourceRow.id).Nodup ∧
      ((layout r q none).levelled r SourceRow.three).ComesTo (SourceRow.three.map (⟨·, []⟩)) ∧
      ∃ order : List LevelledRow, order.Perm (SourceRow.three.map (⟨·, []⟩)) ∧ order.Pairwise (r.Precedes fun _ => []) ∧
        sortRows r.sortKeys (order.reverse.map ((layout r q none).sortedRow r fun _ => [])) =
          .ok (order.map ((layout r q none).sortedRow r fun _ => [])) := by
  have returned : ∀ row ∈ SourceRow.three, row.IsReturned := by
    intro row listed
    simp only [SourceRow.three, List.mem_cons, List.not_mem_nil, or_false] at listed
    rcases listed with rfl | rfl | rfl
    · exact ⟨⟨3, rfl⟩, Or.inr ⟨_, rfl⟩, fun _ => rfl⟩
    · exact ⟨⟨2, rfl⟩, Or.inr ⟨_, rfl⟩, fun _ => rfl⟩
    · exact ⟨⟨7, rfl⟩, Or.inl rfl, fun _ => rfl⟩
  have ids : (SourceRow.three.map SourceRow.id).Nodup := by simp [SourceRow.three]
  obtain ⟨r, parsed, noConditions, planned⟩ : ∃ r, Payload.readRequest Json.ofMostEdits = .ok r ∧
      r.requiresLevels = false ∧ ((Query.ofRequest r).toOption.any fun q => q.plan.levels == []) = true :=
    ⟨_, rfl, rfl, by decide +kernel⟩
  obtain ⟨q, built, noLevels⟩ := exists_of_any planned
  have kept : ((layout r q none).levelled r SourceRow.three).ComesTo (SourceRow.three.map (⟨·, []⟩)) := by
    have levelled : (layout r q none).withLevels SourceRow.three = .ok (SourceRow.three.map (⟨·, []⟩)) := by
      show SourceRow.three.mapM (·.withLevels none q.plan.levels) = _
      rw [eq_of_beq noLevels]
      rfl
    have yields := Layout.levelled_yields (r := r) levelled
    rw [List.filter_eq_self.2 fun row _ => Layout.keepsLevels_of_not_requiresLevels noConditions row] at yields
    exact ⟨[], yields []⟩
  obtain ⟨⟨order, perm, inOrder, sorted⟩, -, -⟩ := sortRows_of_levelled built returned ids kept fun _ => []
  exact ⟨r, q, parsed, built, returned, ids, kept, order, perm, inOrder,
    sorted _ (((List.reverse_perm order).trans perm).map _)⟩

end ActivityReport
