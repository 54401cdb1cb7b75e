import ActivityReport.Calendar.Timestamp
import ActivityReport.Number.Extended

/-!
# Cells

The values of a row, as a database returns them and as a report shows them. Databases differ in how they
return numbers and days; `toNumber?` and `toDate?` bring them to one form.
-/

namespace ActivityReport

/-- One value of a row. -/
inductive Cell where
  | null
  | bool (b : Bool)
  | int (n : Int)
  | float (x : Float)
  /-- Not-a-number with a minus sign, which is handed through; `float` holds the one without. -/
  | minusNaN
  | decimal (x : ExtendedDecimal)
  | text (s : String)
  | date (d : Date)
  | timestamp (t : Timestamp)
  | list (items : List Cell)
  /-- Values under names, of which nothing more is known. -/
  | record (entries : List (String × Cell))
  deriving Repr, Inhabited

namespace Cell

open Number

/-- A number as a cell. -/
def ofNumber : Number.Numeral → Cell
  | .whole n => int n
  | .real x => float x

/-- A cell for a value that may be absent. -/
def ofOption {α : Type} (f : α → Cell) : Option α → Cell
  | some a => f a
  | none => null

/-- Whether there is no value. -/
def isNull : Cell → Bool
  | null => true
  | _ => false

/-- Whether a cell counts as filled in: nothing, false, zero and what is empty do not. -/
def isFilled : Cell → Bool
  | null => false
  | bool b => b
  | int n => n != 0
  | float x => x != 0
  | decimal (.finite x) => x.digits != 0
  | text s => s != ""
  | list items => !items.isEmpty
  | record entries => !entries.isEmpty
  | minusNaN | decimal _ | date _ | timestamp _ => true

/-- The text in a cell that is one. -/
def text? : Cell → Option String
  | text s => some s
  | _ => none

/-- The whole number in a cell that is one. -/
def int? : Cell → Option Int
  | int n => some n
  | _ => none

/-- The number in a cell: a number, or one spelled by a decimal number or a text. -/
def toNumber? : Cell → Option Number.Numeral
  | int n => some (.whole n)
  | float x => some (.real x)
  | minusNaN => some (.real notANumber)
  | decimal x => x.toNumber?
  | text s => number? s
  | _ => none

/-- The number in a cell as a cell. -/
def toNumeric : Cell → Cell
  | minusNaN => minusNaN
  | c => ofOption ofNumber c.toNumber?

/-- The day in a cell, unless it stands for "never". -/
def toDate? (c : Cell) : Option Date :=
  (match c with
    | date d => some d
    | timestamp t => some t.day
    | text s => Date.ofCellText? s
    | _ => none).filter fun d => !d.isNever

end Cell

end ActivityReport
