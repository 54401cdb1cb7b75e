import ActivityReport.Cell.Order
import ActivityReport.Ladder.Level
import ActivityReport.Query.Evaluation
import ActivityReport.Request.Basic

/-!
# Rows of a report

The rows that a query returns, brought into the form of a report: numbers and days in one form, levels
worked out from their totals, and for each column the value by which rows are ordered. Rows that fail a
condition on levels are dropped here.
-/

namespace ActivityReport

/-- What is known of a column: what was asked for, and the label of its values when the query worked
them out. -/
structure LabelledColumn where
  column : Column
  label : Option Label

/-- How the rows of a query are read: the columns, the snapshots that decide levels, and the ladder. -/
structure Layout where
  columns : List LabelledColumn
  levels : List LevelSnapshot
  ladder : Option Ladder

namespace Layout

/-- The layout of the rows of a request's query. -/
def ofRequest (r : Request) (labels : List (Option Label)) (levels : List LevelSnapshot)
    (ladder : Option Ladder) : Layout :=
  ⟨r.columns.zipWith LabelledColumn.mk labels, levels, ladder⟩

/-- Whether a request has more columns than labels were given for. -/
def lacksLabels (l : Layout) (r : Request) : Bool := l.columns.length < r.columns.length

/-- Whether there are rungs to stand on. -/
def hasRungs (l : Layout) : Bool := l.ladder.any (!·.isEmpty)

end Layout

/-- A row as some source returns it: the actor and its name may be cells of any kind. -/
structure SourceRow where
  id : Cell
  name : Cell
  cell : Label → Cell

/-- The row of a query as a row of a source. -/
def RawRow.source (r : RawRow) : SourceRow := ⟨.int r.id, .text r.name, r.cell⟩

/-- A row with its levels. -/
structure LevelledRow where
  raw : SourceRow
  levels : List (LevelSnapshot × Level)

namespace LevelledRow

/-- The level at a snapshot; there is none where nothing was read. -/
def levelAt (r : LevelledRow) (s : Option LevelSnapshot) : Level :=
  match s with
  | some s => (((r.levels.find? (·.1 == s)).map Prod.snd).getD Level.none)
  | none => Level.none

end LevelledRow

namespace SourceRow

/-- The name that a row shows; a name that is not filled in is an empty text. -/
def shownName (r : SourceRow) : Cell := if r.name.isFilled then r.name else .text ""

/-- A total that decides a level; a value that is no number counts as 0. -/
def total (r : SourceRow) (s : LevelSnapshot) (counter : Counter) : Except LevelFault Int :=
  match (r.cell (.levelTotal s counter)).toNumber? with
  | some n => n.toWhole.mapError .total
  | none => .ok 0

/-- The level of a row at a snapshot. -/
def levelAt (r : SourceRow) (ladder : Option Ladder) (s : LevelSnapshot) : Except LevelFault Level := do
  let edits ← r.total s .edits
  let logEvents ← r.total s .logEvents
  let activeDays ← r.total s .activeDays
  (ladder.getD []).measure (edits + logEvents) activeDays

/-- The row with its levels at some snapshots. -/
def withLevels (r : SourceRow) (ladder : Option Ladder) (levels : List LevelSnapshot) :
    Except LevelFault LevelledRow := do
  return ⟨r, ← levels.mapM fun s => (s, ·) <$> r.levelAt ladder s⟩

end SourceRow

/-- The levels at the two ends of a window. -/
structure LevelChange where
  start : Level
  finish : Level

namespace LevelChange

/-- Whether the level changed. -/
def changed (c : LevelChange) : Bool := c.start.id? != c.finish.id?

end LevelChange

/-- The levels of a row at the two ends of a window. -/
def LevelledRow.change (r : LevelledRow) (w : Window) : LevelChange :=
  ⟨r.levelAt (LevelSnapshot.atStart? w), r.levelAt (some (LevelSnapshot.atFinish w))⟩

namespace Level

/-- The rung of a level, as its identifier and label. -/
def shown (l : Level) (more : List Cell) : Cell :=
  .ofOption (fun r => .list ([.text r.id, .text r.label] ++ more)) l.rung

end Level

namespace LevelMoment

/-- What a level column shows. -/
def shown (c : LevelChange) : LevelMoment → Cell
  | start => c.start.shown []
  | finish => c.finish.shown []
  | finishWithChange => c.finish.shown [.bool c.changed]
  | sortOrder => .float c.finish.shownSortOrder

/-- The rank by which a level column is ordered. -/
def rank (c : LevelChange) : LevelMoment → Cell
  | start => .float c.start.shownSortOrder
  | finish | finishWithChange | sortOrder => .float c.finish.shownSortOrder

end LevelMoment

/-- The value of a cell in the form that its type asks for. -/
def ValueType.normalize (t : ValueType) (c : Cell) : Cell :=
  match t with
  | integer | float => c.toNumeric
  | date => .ofOption .date c.toDate?
  | _ => c

/-- The values of one column: the one that is shown and the one by which rows are ordered. -/
structure ColumnValue where
  shown : Cell
  rank : Cell

/-- A row of a report before its rows are numbered. -/
structure ReportRow where
  id : Cell
  name : Cell
  values : List ColumnValue

namespace LabelledColumn

/-- What a column shows in a row; groups and numbers are filled in later. -/
def shown (c : LabelledColumn) (w : Window) (r : LevelledRow) : Cell :=
  match c.column.type, c.label with
  | .userName, _ => r.raw.shownName
  | t, some label => t.valueType.normalize (r.raw.cell label)
  | .level moment, none => moment.shown (r.change w)
  | _, none => .null

/-- The values of a column in a row. -/
def value (c : LabelledColumn) (w : Window) (r : LevelledRow) : ColumnValue :=
  let shown := c.shown w r
  match c.column.type with
  | .level .sortOrder => ⟨shown, shown⟩
  | .level moment => ⟨shown, moment.rank (r.change w)⟩
  | _ => ⟨shown, shown⟩

end LabelledColumn

/-- The row of a report. -/
def LevelledRow.report (r : LevelledRow) (l : Layout) (w : Window) : ReportRow :=
  ⟨r.raw.id, r.raw.shownName, l.columns.map (·.value w r)⟩

namespace Condition

/-- Whether a row meets a condition on levels; other conditions have been met in the query. -/
def keeps (c : Condition) (change : LevelChange) : Bool :=
  match c with
  | level asked ids => change.finish.id?.any ids.contains && (!asked || change.changed)
  | _ => true

end Condition

namespace Request

/-- Whether a row meets the conditions on levels. -/
def keepsLevels (r : Request) (row : LevelledRow) : Bool :=
  r.conditions.all (·.keeps (row.change r.window))

/-- Whether a request has conditions on levels. -/
def requiresLevels (r : Request) : Bool := r.conditions.any Condition.isLevel

end Request

end ActivityReport
