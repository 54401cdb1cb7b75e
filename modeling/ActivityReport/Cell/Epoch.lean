import ActivityReport.Calendar.Text
import ActivityReport.Calendar.Window
import ActivityReport.Cell.Order
import ActivityReport.Cell.Typed
import ActivityReport.Number.Whole

/-!
# Days from cells

Epochs and periods as cells hold them, and the days that they name in a window whose ends may be missing.
An epoch is nothing, the name of the start of the period, or a number of days in any form that can be cut
to a whole number; a period is a number, of which whole days count. The wire form of a day is read from
cells as well.
-/

namespace ActivityReport

open Number

/-- Why cells name no day. -/
inductive CellDayFault where
  | whole (f : WholeFault)
  | day (f : DayFault)
  /-- Days are counted from a last day that is missing. -/
  | noLastDay
  /-- The length of a period is of a kind that has no days. -/
  | period (kind : String)
  /-- A missing day is to be written. -/
  | noDay
  | triple (f : Date.TripleFault)
  /-- A value of a kind that has no parts stands for a wire form. -/
  | noParts (kind : String)
  /-- A decimal number that must not be worked with stands for the month of a wire form. -/
  | notANumber
  /-- A part of a wire form is no whole number. -/
  | part (kind : String)
  /-- The month of a wire form is no number. -/
  | month (kind : String)
  deriving DecidableEq, Repr

namespace CellDayFault

/-- The name of the kind of a fault. -/
def name : CellDayFault → String
  | whole f => f.name
  | day _ => "OverflowError"
  | noLastDay | period _ | noParts _ | part _ | month _ => "TypeError"
  | notANumber => ExtendedDecimal.misuseName
  | noDay => "AttributeError"
  | triple f => f.name

/-- The fault in words. -/
def message : CellDayFault → String
  | whole f => f.message
  | day f => f.message
  | noLastDay => "unsupported operand type(s) for +: 'NoneType' and 'datetime.timedelta'"
  | period kind => s!"unsupported type for timedelta days component: {kind}"
  | noDay => "'NoneType' object has no attribute 'strftime'"
  | triple f => f.message
  | noParts kind => s!"cannot unpack non-iterable {kind} object"
  | notANumber => ExtendedDecimal.misuseMessage
  | part kind => s!"'{kind}' object cannot be interpreted as an integer"
  | month kind =>
    if kind == "str" || kind == "list" then s!"can only concatenate {kind} (not \"int\") to {kind}"
    else s!"unsupported operand type(s) for +: '{kind}' and 'int'"

end CellDayFault

namespace Cell

/-- The epoch in a cell. -/
def toEpoch : Cell → Except WholeFault (Option Epoch)
  | null => .ok none
  | text "startOfSelectedPeriod" => .ok (some .startOfPeriod)
  | text s => (some ∘ .offset) <$> wholeOfText s
  | int n => .ok (some (.offset n))
  | float x => (some ∘ .offset) <$> wholeOfFloat x
  | minusNaN => .error .notANumber
  | bool b => .ok (some (.offset (if b then 1 else 0)))
  | decimal x => (some ∘ .offset) <$> wholeOfDecimal x
  | c => .error (.kind c.kindName)

/-- The microseconds of a fraction of a day: the product is rounded to a double and then to a whole number,
a tie to the even one. -/
def microsecondsOfFraction (fraction : Rat) : Int :=
  let product := ((parts? (ofRat (fraction * microsecondsPerDay))).map Parts.toRat).getD 0
  let size : Int := roundDiv product.num.natAbs product.den
  if product < 0 then -size else size

/-- The number of whole days in a cell, of a double after it is rounded to microseconds. -/
def toDays : Cell → Except CellDayFault Int
  | int n => .ok n
  | bool b => .ok (if b then 1 else 0)
  | float x =>
    match parts? x with
    | some p => .ok ((p.truncate * microsecondsPerDay +
        microsecondsOfFraction (p.toRat - (p.truncate : Rat))).fdiv microsecondsPerDay)
    | none => .error (.whole (if x.isNaN then .notANumber else .infinite))
  | minusNaN => .error (.whole .notANumber)
  | c => .error (.period c.kindName)

/-- The day that the epoch in a cell names. -/
def resolveEpoch (start finish : Option Date) (epoch : Cell) : Except CellDayFault (Option Date) := do
  match ← epoch.toEpoch.mapError .whole, finish with
  | e, some last => (Window.resolve ⟨start, last⟩ e).mapError .day
  | none, none => return none
  | some .startOfPeriod, none => (start.mapM fun (first : Date) => first.earlier 1).mapError .day
  | some (.offset n), none => do
    (checkSpan n).mapError .day
    throw .noLastDay

/-- The day before a period that ends at an epoch, and the epoch. -/
def periodBounds (start finish : Option Date) (period epoch : Cell) :
    Except CellDayFault (Option (Date × Date)) := do
  match ← epoch.resolveEpoch start finish with
  | none => return none
  | some last => return some (← (last.earlier (← period.toDays)).mapError .day, last)

/-- A part of the wire form of a day; `shift` is what is added to it. -/
def toPart (shift : Int) : Cell → Except CellDayFault Int
  | int n => (fun _ => n) <$> (Date.checkWord (n + shift)).mapError .triple
  | bool b => .ok (if b then 1 else 0)
  | c => .error (.part c.kindName)

/-- The parts of a cell: the items of a list, the characters of a text, the names in a record. -/
def parts : Cell → Except CellDayFault (List Cell)
  | list items => .ok items
  | text s => .ok (characters s)
  | record entries => .ok (entries.map fun e => text e.1)
  | c => .error (.noParts c.kindName)

/-- Checks that a cell is a number to which another can be added. -/
def checkMonth (c : Cell) : Except CellDayFault Unit :=
  match c.quantity? with
  | some (_, x) => if x.isSignaling then .error .notANumber else .ok ()
  | none => .error (.month c.kindName)

end Cell

/-- The day whose wire form some cells are. -/
def Date.ofCells : List Cell → Except CellDayFault Date
  | [y, m, d] => do
    m.checkMonth
    (ofTriple [← y.toPart 0, ← m.toPart 1, ← d.toPart 0]).mapError .triple
  | cells => (ofTriple (cells.map fun _ => 0)).mapError .triple

/-- The day whose wire form a cell is; nothing stands for no day. -/
def Date.ofCell? : Cell → Except CellDayFault (Option Date)
  | .null => .ok none
  | c => do return some (← ofCells (← c.parts))

/-- The key of a day that may be missing. -/
def Date.keyOf : Option Date → Except CellDayFault String
  | some d => .ok d.key
  | none => .error .noDay

end ActivityReport
