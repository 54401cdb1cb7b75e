import ActivityReport.Report.Row
import ActivityReport.Sorting.Basic

/-!
# Order of rows

Rows are ordered by the listed columns in turn, then by name without regard to case, then by actor. What
has no value comes last in either direction. Keys that name no column are passed over. Where a column
holds cells of several families, or not-a-number, which is equal to every number, rows have no one order;
their place then depends on which of them are compared, and sorting fails where two of those cannot be.
-/

namespace ActivityReport

/-- A column to order by. -/
structure SortKey where
  position : Nat
  descending : Bool
  deriving DecidableEq, Repr

namespace Request

/-- The columns to order by. -/
def sortKeys (r : Request) : List SortKey :=
  r.orderBy.filterMap fun o => (r.position? o.columnId).map fun i => ⟨i, o.descending⟩

/-- The identifiers to order by that no column has. -/
def unknownKeys (r : Request) : List String :=
  (r.orderBy.filter fun o => (r.position? o.columnId).isNone).map (·.columnId)

end Request

/-- The order of two cells in a direction; what has no value comes last. -/
def compareCells (descending : Bool) (a b : Cell) : Ordering :=
  match a.isNull, b.isNull with
  | true, true => .eq
  | true, false => .gt
  | false, true => .lt
  | false, false => if descending then (a.order b).swap else a.order b

/-- The order of two cells in a direction, if they can be compared. -/
def tryCompareCells (descending : Bool) (a b : Cell) : Except OrderFault Ordering :=
  match a.isNull, b.isNull with
  | true, true => .ok .eq
  | true, false => .ok .gt
  | false, true => .ok .lt
  | false, false => (fun order => if descending then order.swap else order) <$> a.tryCompare b

namespace ReportRow

/-- The value by which a row is ordered in a column. -/
def rank (r : ReportRow) (position : Nat) : Cell :=
  ((r.values[position]?).map ColumnValue.rank).getD .null

/-- The order of two rows by name and actor. -/
def compareNames (a b : ReportRow) : Ordering :=
  (a.name.order b.name).then (a.id.order b.id)

/-- The order of two rows by name and actor, if they can be compared. Actors that are texts are compared as
they are written. -/
def tryCompareNames (a b : ReportRow) : Except OrderFault Ordering := do
  match ← a.name.tryCompare b.name with
  | .eq => a.id.tryOrder b.id
  | order => return order

/-- The order of two rows by some columns. -/
def compareBy (a b : ReportRow) : List SortKey → Ordering
  | [] => .eq
  | key :: rest => (compareCells key.descending (a.rank key.position) (b.rank key.position)).then
      (compareBy a b rest)

/-- The order of two rows by some columns, if they can be compared. -/
def tryCompareBy (a b : ReportRow) : List SortKey → Except OrderFault Ordering
  | [] => return .eq
  | key :: rest => do
    match ← tryCompareCells key.descending (a.rank key.position) (b.rank key.position) with
    | .eq => tryCompareBy a b rest
    | order => return order

/-- The order of two rows. -/
def compare (keys : List SortKey) (a b : ReportRow) : Ordering :=
  (compareBy a b keys).then (a.compareNames b)

/-- Whether one row comes before another, if they can be compared. -/
def tryLess (keys : List SortKey) (a b : ReportRow) : Except OrderFault Bool := do
  match ← tryCompareBy a b keys with
  | .eq => return (← a.tryCompareNames b) == .lt
  | order => return order == .lt

end ReportRow

/-- Whether the cells in each listed column have one order, names are texts and actors are numbers. -/
def haveOrder (keys : List SortKey) (rows : List ReportRow) : Bool :=
  (keys.all fun key => CellFamily.all.any fun f => rows.all fun r => (r.rank key.position).fits f) &&
    rows.all fun r => r.name.family? == some .text && r.id.family? == some .number

/-- Rows in order. -/
def sortRows (keys : List SortKey) (rows : List ReportRow) : Except OrderFault (List ReportRow) :=
  if haveOrder keys rows then .ok (rows.mergeSort fun a b => ReportRow.compare keys a b != .gt)
  else Sorting.sort (ReportRow.tryLess keys) rows

end ActivityReport
