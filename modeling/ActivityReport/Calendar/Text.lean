import ActivityReport.Calendar.Date
import ActivityReport.Text.Digit
import ActivityReport.Text.Quoted

/-!
# Days in text

The spellings of a day. `toIso` writes `YYYY-MM-DD`; `key` writes the digits that join names are built
from, without padding the year; `ofIso` reads the forms of ISO 8601 that cells may carry (calendar and
week dates, with and without dashes) into a `Spelling` and takes the day that it names, and `ofCellText?`
reads a cell, of which only the first ten characters count. `toTriple` and `ofTriple` are the wire form
`[year, month from 0, day]`.
-/

namespace ActivityReport.Date

open Text

/-- A number in decimal digits, padded with zeros to a width. -/
def padded (width n : Nat) : String :=
  let ds := Nat.toDigits 10 n
  String.ofList (List.replicate (width - ds.length) '0' ++ ds)

/-- The day as `YYYY-MM-DD`. -/
def toIso (d : Date) : String :=
  s!"{padded 4 d.year}-{padded 2 d.month}-{padded 2 d.day}"

/-- The day as the digits of its year, month and day; the year is not padded. -/
def key (d : Date) : String :=
  s!"{d.year}{padded 2 d.month}{padded 2 d.day}"

instance : ToString Date := ⟨toIso⟩

/-- Reads exactly `n` ASCII digits. -/
def readDigits (n : Nat) (cs : List Char) : Option (Nat × List Char) :=
  let ds := cs.take n
  if ds.length = n ∧ ds.all isAsciiDigit then
    some (digitsValue (ds.map fun c => c.toNat - '0'.toNat), cs.drop n)
  else none

/-- Reads a dash where one is expected. -/
def readDash (expected : Bool) : List Char → Option (List Char)
  | '-' :: rest => if expected then some rest else none
  | cs => if expected then none else some cs

/-! ## Fields -/

/-- Which number is to blame when a year, a month and a day of the month name no day. -/
inductive FieldFault where
  | year (y : Int)
  | month
  | day
  deriving Repr, DecidableEq

/-- The fault in words. -/
def FieldFault.message : FieldFault → String
  | .year y => s!"year {y} is out of range"
  | .month => "month must be in 1..12"
  | .day => "day is out of range for month"

/-- The day with a year, month and day; the year is checked first, then the month, then the day. -/
def ofFields (y m d : Int) : Except FieldFault Date :=
  if y < 1 ∨ 9999 < y then .error (.year y)
  else if m < 1 ∨ 12 < m then .error .month
  else if d < 1 then .error .day
  else ((ofYmd? y.toNat m.toNat d.toNat).map .ok).getD (.error .day)

/-! ## ISO 8601 -/

/-- How a day is spelled: by year, month and day, or by year, week and weekday (1 for Monday). The numbers
of a spelling by months may name no day. -/
inductive Spelling where
  | ofMonth (y m d : Nat)
  | ofWeek (y w d : Nat)
  deriving Repr, DecidableEq

/-- The ordinal of the Monday that begins week 1 of a year. -/
def firstMonday (y : Nat) : Nat :=
  let first := daysBeforeYear y + 1
  let w := weekday first
  if w > 3 then first - w + 7 else first - w

/-- Whether a year has a week 53. -/
def hasLongYear (y : Nat) : Bool :=
  let w := weekday (daysBeforeYear y + 1)
  w == 3 || (w == 2 && isLeapYear y)

/-- The day that is spelled. The weeks of the year 0 lie before all months, and the last days of the weeks
of the year 9999 in the year after it. -/
def Spelling.toDate : Spelling → Except FieldFault Date
  | .ofMonth y m d => ofFields y m d
  | .ofWeek y w d =>
    if y = 0 then .error .month
    else ((ofOrdinal? (firstMonday y + 7 * (w - 1) + (d - 1))).map .ok).getD (.error (.year (y + 1)))

/-- Whether a year has a week. -/
def hasWeek (y w : Nat) : Bool := 1 ≤ w && (w ≤ 52 || w == 53 && hasLongYear y)

/-- Reads a week date after its `W`: the weekday may be left out at the end of the text. -/
def readWeekDate (y : Nat) (dashed : Bool) (cs : List Char) : Option Spelling := do
  let (w, rest) ← readDigits 2 cs
  let d ← if rest.isEmpty then some 1 else do
    let (d, _) ← readDigits 1 (← if dashed then readDash true rest else some rest)
    some d
  guard (hasWeek y w && 1 ≤ d && d ≤ 7)
  return .ofWeek y w d

/-- Reads the spelling of a day in one of the ISO forms; the text must fill seven, eight or ten bytes, and
what follows the day inside them is not read. -/
def readIso (s : String) : Option Spelling := do
  guard (s.utf8ByteSize = 7 ∨ s.utf8ByteSize = 8 ∨ s.utf8ByteSize = 10)
  let (y, rest) ← readDigits 4 s.toList
  let dashed := rest.head? == some '-'
  let rest := if dashed then rest.drop 1 else rest
  if rest.head? == some 'W' then readWeekDate y dashed (rest.drop 1)
  else
    let (m, rest) ← readDigits 2 rest
    let (d, _) ← readDigits 2 (← if dashed then readDash true rest else some rest)
    return .ofMonth y m d

/-- Why a text names no day. -/
inductive TextFault where
  | malformed (s : String)
  | field (f : FieldFault)
  deriving Repr, DecidableEq

/-- The fault in words. -/
def TextFault.message : TextFault → String
  | .malformed s => s!"Invalid isoformat string: {quoted s}"
  | .field f => f.message

/-- The day that a text names in one of the ISO forms. -/
def ofIso (s : String) : Except TextFault Date :=
  match readIso s with
  | some spelling => spelling.toDate.mapError .field
  | none => .error (.malformed s)

/-- Reads the day at the head of a cell's text. -/
def ofCellText? (s : String) : Option Date := (ofIso (String.ofList (s.toList.take 10))).toOption

/-! ## The wire form -/

/-- Year, month from 0, and day. -/
def toTriple (d : Date) : Nat × Nat × Nat := (d.year, d.month - 1, d.day)

/-- Why a list of numbers is not the wire form of a day. -/
inductive TripleFault where
  | tooFew (count : Nat)
  | tooMany
  /-- A number lies beyond a signed 64-bit word. -/
  | tooWide
  /-- A number lies above the signed 32-bit words. -/
  | tooLarge
  /-- A number lies below the signed 32-bit words. -/
  | tooSmall
  | field (f : FieldFault)
  deriving Repr, DecidableEq

/-- The name of the kind of a fault: a number that fits no word overflows, any other has a bad value. -/
def TripleFault.name : TripleFault → String
  | .tooWide | .tooLarge | .tooSmall => "OverflowError"
  | _ => "ValueError"

/-- The fault in words. -/
def TripleFault.message : TripleFault → String
  | .tooFew n => s!"not enough values to unpack (expected 3, got {n})"
  | .tooMany => "too many values to unpack (expected 3)"
  | .tooWide => "Python int too large to convert to C long"
  | .tooLarge => "signed integer is greater than maximum"
  | .tooSmall => "signed integer is less than minimum"
  | .field f => f.message

/-- Checks that a number is a signed 32-bit word. -/
def checkWord (n : Int) : Except TripleFault Unit :=
  if n < -9223372036854775808 ∨ 9223372036854775807 < n then .error .tooWide
  else if 2147483647 < n then .error .tooLarge
  else if n < -2147483648 then .error .tooSmall
  else .ok ()

/-- Reads the wire form of a day. The year, the month from 1 and the day must be signed 32-bit words. -/
def ofTriple : List Int → Except TripleFault Date
  | [y, m, d] => do
    checkWord y
    checkWord (m + 1)
    checkWord d
    (ofFields y (m + 1) d).mapError .field
  | _ :: _ :: _ :: _ => .error .tooMany
  | few => .error (.tooFew few.length)

end ActivityReport.Date
