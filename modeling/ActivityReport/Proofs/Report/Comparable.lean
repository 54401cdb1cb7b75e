import ActivityReport.Proofs.Report.Numbering
import ActivityReport.Proofs.Report.Order
import ActivityReport.Proofs.Sorting.Failure

/-!
# Rows that can be compared

The cells by which rows are ordered in a column are of one kind, though not-a-number may be among them, so they can be
compared (`Cell.Joins.tryCompareCells`). Rows of actors with names can then be compared as well, and sorting them does
not fail, whether or not they have one order (`exists_sortRows_eq_ok`).
-/

namespace ActivityReport

namespace Cell

/-- Whether a cell may stand among those of a family: it has no value or one of their kind. Not-a-number stands among
the numbers. -/
inductive Joins : Cell → CellFamily → Prop
  | null {f : CellFamily} : Joins .null f
  | number {c : Cell} {n : Number.Numeral} : c.number? = some n → Joins c .number
  | text (s : String) : Joins (.text s) .text
  | day (d : Date) : Joins (.date d) .day
  | texts (list : List String) : Joins (.list (list.map .text)) .texts

variable {a b : Cell} {f : CellFamily}

lemma exists_quantity?_of_number? {n : Number.Numeral} (h : a.number? = some n) : ∃ d, a.quantity? = some (false, d) := by
  cases a <;> cases h <;> exact ⟨_, rfl⟩

/-- Numbers that are not decimal can be compared, not-a-number among them. -/
lemma exists_tryCompare_number {m n : Number.Numeral} (ha : a.number? = some m) (hb : b.number? = some n) :
    ∃ o, a.tryCompare b = .ok o := by
  obtain ⟨x, own⟩ := exists_quantity?_of_number? ha
  obtain ⟨y, own'⟩ := exists_quantity?_of_number? hb
  have doubles : ∃ o, orderQuantity (false, x) (false, y) = .ok o := by
    unfold orderQuantity
    cases x.order? y with
    | some o => exact ⟨o, rfl⟩
    | none => exact ⟨.eq, rfl⟩
  obtain ⟨o, compared⟩ := doubles
  cases a <;> cases ha <;> cases own <;> cases b <;> cases hb <;> cases own' <;> exact ⟨o, compared⟩

namespace Joins

lemma tryCompare (ha : a.Joins f) (hb : b.Joins f) (valued : a.isNull = false) (valued' : b.isNull = false) :
    ∃ o, a.tryCompare b = .ok o := by
  cases ha with
  | null => cases valued
  | number own =>
    cases hb with
    | null => cases valued'
    | number own' => exact exists_tryCompare_number own own'
  | text s => exact ⟨_, rfl⟩
  | day d =>
    cases hb with
    | null => cases valued'
    | day e => exact ⟨_, rfl⟩
  | texts l =>
    cases hb with
    | null => cases valued'
    | texts m => exact ⟨_, (tryOrderItems_texts l m).1⟩

/-- Two cells of one family can be compared in either direction. -/
lemma tryCompareCells (ha : a.Joins f) (hb : b.Joins f) (descending : Bool) :
    ∃ o, ActivityReport.tryCompareCells descending a b = .ok o := by
  unfold ActivityReport.tryCompareCells
  cases first : a.isNull with
  | true => cases b.isNull <;> exact ⟨_, rfl⟩
  | false =>
    cases second : b.isNull with
    | true => exact ⟨_, rfl⟩
    | false =>
      obtain ⟨o, compared⟩ := ha.tryCompare hb first second
      dsimp only
      rw [compared]
      exact ⟨_, rfl⟩

lemma ofNumber (n : Number.Numeral) : (ofNumber n).Joins .number := by
  cases n with
  | whole n => exact number (n := .whole n) rfl
  | real x => exact number (n := .real x) rfl

lemma toNumeric (c : Cell) : c.toNumeric.Joins .number := by
  have shown : (ofOption Cell.ofNumber c.toNumber?).Joins .number := by
    cases c.toNumber? with
    | none => exact null
    | some n => exact ofNumber n
  cases c with
  | minusNaN => exact number (n := .real Number.notANumber) rfl
  | _ => exact shown

lemma ofDate (d : Option Date) : (ofOption date d).Joins .day := by
  cases d with
  | none => exact null
  | some d => exact day d

end Joins

end Cell

/-! ## Rows -/

/-- Whether a row is one of an actor with a name. -/
structure ReportRow.IsNamed (row : ReportRow) : Prop where
  id : ∃ n, row.id = .int n
  name : ∃ s, row.name = .text s

namespace ReportRow

variable {a b : ReportRow}

lemma IsNamed.tryCompareNames (ha : a.IsNamed) (hb : b.IsNamed) : ∃ o, a.tryCompareNames b = .ok o := by
  obtain ⟨⟨m, idA⟩, s, nameA⟩ := ha
  obtain ⟨⟨n, idB⟩, t, nameB⟩ := hb
  unfold ReportRow.tryCompareNames
  rw [idA, idB, nameA, nameB, (Cell.order_text s t).2, (Cell.order_int m n).2]
  cases Cell.compareFolded s t <;> exact ⟨_, rfl⟩

lemma exists_tryCompareBy {keys : List SortKey}
    (each : ∀ key ∈ keys, ∃ f, (a.rank key.position).Joins f ∧ (b.rank key.position).Joins f) :
    ∃ o, a.tryCompareBy b keys = .ok o := by
  induction keys with
  | nil => exact ⟨.eq, rfl⟩
  | cons key rest ih =>
    obtain ⟨⟨f, first, second⟩, others⟩ := List.forall_mem_cons.1 each
    obtain ⟨o, compared⟩ := first.tryCompareCells second key.descending
    rw [tryCompareBy, compared]
    cases o with
    | lt => exact ⟨.lt, rfl⟩
    | gt => exact ⟨.gt, rfl⟩
    | eq => exact ih others

/-- Rows of actors whose cells can be compared key by key can be compared. -/
lemma exists_tryLess {keys : List SortKey} (ha : a.IsNamed) (hb : b.IsNamed)
    (each : ∀ key ∈ keys, ∃ f, (a.rank key.position).Joins f ∧ (b.rank key.position).Joins f) :
    ∃ before, tryLess keys a b = .ok before := by
  obtain ⟨o, compared⟩ := exists_tryCompareBy each
  obtain ⟨o', named⟩ := ha.tryCompareNames hb
  unfold tryLess
  rw [compared, named]
  cases o <;> exact ⟨_, rfl⟩

lemma IsNamed.isKeyed (h : a.IsNamed) : a.IsKeyed := by
  obtain ⟨⟨n, id⟩, s, name⟩ := h
  constructor
  · rw [id]
    rfl
  · rw [name]
    rfl

end ReportRow

/-- Rows of actors are sorted without a failure when in each column that is asked for their cells are of one family. -/
theorem exists_sortRows_eq_ok {keys : List SortKey} {rows : List ReportRow} (named : ∀ row ∈ rows, row.IsNamed)
    (each : ∀ key ∈ keys, ∃ f, ∀ row ∈ rows, (row.rank key.position).Joins f) :
    ∃ sorted, sortRows keys rows = .ok sorted := by
  unfold sortRows
  split
  · exact ⟨_, rfl⟩
  · refine not_not.1 fun fails => ?_
    obtain ⟨e, failed⟩ := exists_eq_error_iff.2 fails
    obtain ⟨a, listed, b, listed', fault⟩ := Sorting.exists_of_sort_eq_error failed
    obtain ⟨before, compared⟩ := ReportRow.exists_tryLess (named a listed) (named b listed') fun key asked => by
      obtain ⟨f, same⟩ := each key asked
      exact ⟨f, same a listed, same b listed'⟩
    rw [compared] at fault
    cases fault

/-! ## Rows that a database returns -/

lemma RawRow.exists_shownName (row : RawRow) : ∃ s, row.source.shownName = .text s := by
  unfold SourceRow.shownName
  split
  · exact ⟨row.name, rfl⟩
  · exact ⟨"", rfl⟩

namespace Service

variable {r : Request} {p : JoinPlan} {q : Query} {ladder : Option Ladder} {groups : Cell → List String}
  {row : LevelledRow}

lemma isNamed_sortedRow (l : Layout) (r : Request) (groups : Cell → List String) {raw : RawRow}
    (own : row.raw = raw.source) : (l.sortedRow r groups row).IsNamed := by
  have plain : (row.report l r.window).IsNamed := by
    constructor
    · exact ⟨raw.id, congrArg SourceRow.id own⟩
    · obtain ⟨s, shown⟩ := raw.exists_shownName
      exact ⟨s, (congrArg SourceRow.shownName own).trans shown⟩
  unfold Layout.sortedRow
  split
  · exact ⟨plain.id, plain.name⟩
  · exact plain

lemma joins_rank_value (w : Window) {c : Column} (i : Nat) {raw : RawRow} (own : row.raw = raw.source) :
    (LabelledColumn.value ⟨c, (c.expression? w).map fun _ => .column i⟩ w row).rank.Joins c.type.family := by
  have level : ∀ s, (Cell.float (row.levelAt s).shownSortOrder).Joins .number :=
    fun s => Cell.Joins.ofNumber (.real _)
  have read := Cell.Joins.toNumeric (row.raw.cell (.column i))
  have day := Cell.Joins.ofDate (row.raw.cell (.column i)).toDate?
  unfold Column.expression? LabelledColumn.value LabelledColumn.shown
  dsimp only
  cases type : c.type with
  | rowNumber => exact .null
  | userGroups => exact .null
  | userName =>
    obtain ⟨s, shown⟩ := raw.exists_shownName
    show row.raw.shownName.Joins .text
    rw [own, shown]
    exact .text s
  | level moment => cases moment <;> exact level _
  | count counter span ratio form => cases ratio <;> exact read
  | averagePerDay | activityDays | daysSinceRegistration => exact read
  | milestone =>
    dsimp only
    cases c.milestones.isEmpty <;> exact read
  | logDate | activityDate | registrationDate => exact day

/-- At each position the rows that are sorted are ranked by cells of one family. -/
lemma joins_rank (ladder : Option Ladder) (groups : Cell → List String) (built : Query.ofPlan p r = .ok q) (i : Nat)
    {raw : RawRow} (own : row.raw = raw.source) :
    (((layout r q ladder).sortedRow r groups row).rank i).Joins ((r.columns[i]?.map (·.type.family)).getD .number) := by
  rw [Layout.rank_sortedRow, getElem?_columns built]
  cases r.columns[i]? with
  | none => exact .null
  | some c =>
    show (if r.sortsByGroups = true ∧ c.type = .userGroups then _ else _ : Cell).Joins c.type.family
    split
    · rename_i asked
      rw [asked.2]
      exact .texts _
    · exact joins_rank_value r.window i own

/-- Rows that a database returns are sorted without a failure. -/
lemma exists_sortRows_sortedRow (ladder : Option Ladder) (groups : Cell → List String) (built : Query.ofPlan p r = .ok q)
    {rows : List LevelledRow} (returned : ∀ row ∈ rows, ∃ raw : RawRow, row.raw = raw.source) :
    ∃ sorted, sortRows r.sortKeys (rows.map ((layout r q ladder).sortedRow r groups)) = .ok sorted := by
  refine exists_sortRows_eq_ok ?_ ?_
  · intro report listed
    obtain ⟨row, known, rfl⟩ := List.mem_map.1 listed
    obtain ⟨raw, own⟩ := returned row known
    exact isNamed_sortedRow _ r groups own
  · intro key _
    refine ⟨(r.columns[key.position]?.map (·.type.family)).getD .number, ?_⟩
    intro report listed
    obtain ⟨row, known, rfl⟩ := List.mem_map.1 listed
    obtain ⟨raw, own⟩ := returned row known
    exact joins_rank ladder groups built key.position own

end Service

end ActivityReport
