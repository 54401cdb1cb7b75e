import ActivityReport.Cell.Display
import ActivityReport.Number.Whole

/-!
# Typed cells

How a cell is written as a JSON value. Plain values stand for themselves; an object with one entry under the
name of a type stands for a value of that type, made from the entry by force: a text is read, and a number
is taken as it is where the type has it. `Cell.ofJson` reads a cell and `Cell.plain` takes a value as it
stands.
-/

namespace ActivityReport

namespace Cell

open Number

/-- Why a value is no typed cell. -/
inductive TypedFault where
  | decimal (f : ExtendedDecimal.TextFault)
  /-- A list does not have the three parts of a decimal number. -/
  | decimalParts
  /-- A value of a kind that no decimal number is made from. -/
  | decimalKind (kind : String)
  | float (s : String)
  /-- A whole number has no double near to it. -/
  | floatTooLarge
  /-- A value of a kind that no double is made from. -/
  | floatKind (kind : String)
  | whole (f : WholeFault)
  | date (f : Date.TextFault)
  | timestamp (f : Timestamp.TextFault)
  /-- A day or a moment is not made from a text. -/
  | noText
  /-- A value of a kind that has no items. -/
  | items (kind : String)
  deriving Repr, DecidableEq

namespace TypedFault

/-- The name of the kind of a fault. -/
def name : TypedFault → String
  | decimal _ => ExtendedDecimal.misuseName
  | decimalKind _ | floatKind _ | noText | items _ => "TypeError"
  | floatTooLarge => "OverflowError"
  | whole f => f.name
  | decimalParts | float _ | date _ | timestamp _ => "ValueError"

/-- The fault in words. -/
def message : TypedFault → String
  | decimal f => f.message
  | decimalParts => "argument must be a sequence of length 3"
  | decimalKind kind => s!"conversion from {kind} to Decimal is not supported"
  | float s => s!"could not convert string to float: {Text.quoted s}"
  | floatTooLarge => "int too large to convert to float"
  | floatKind kind => s!"float() argument must be a string or a real number, not '{kind}'"
  | whole f => f.message
  | date f => f.message
  | timestamp f => f.message
  | noText => "fromisoformat: argument must be str"
  | items kind => s!"'{kind}' object is not iterable"

end TypedFault

/-- The decimal number that a value stands for. -/
def decimalOf : Json → Except TypedFault ExtendedDecimal
  | .text s | .brokenText s => (ExtendedDecimal.ofText s).mapError .decimal
  | .int n => .ok (.ofInt n)
  | .bool b => .ok (.ofInt (if b then 1 else 0))
  | .float x => .ok (.ofFloat x)
  | .list _ => .error .decimalParts
  | j => .error (.decimalKind j.kindName)

/-- The double that a text spells. -/
def floatOfText (s : String) : Except TypedFault Cell :=
  match real? s.toList with
  | some x => .ok (if x.isNaN && (s.toList.dropWhile Text.isBlank).head? == some '-' then minusNaN else float x)
  | none => .error (.float s)

/-- The double that a value stands for. -/
def floatOf : Json → Except TypedFault Cell
  | .text s | .brokenText s => floatOfText s
  | .int n => if (ofInt n).isInf then .error .floatTooLarge else .ok (float (ofInt n))
  | .bool b => .ok (float (if b then 1 else 0))
  | .float x => .ok (float x)
  | j => .error (.floatKind j.kindName)

/-- The whole number that a value stands for. -/
def wholeOf : Json → Except TypedFault Int
  | .text s | .brokenText s => (wholeOfText s).mapError .whole
  | .int n => .ok n
  | .bool b => .ok (if b then 1 else 0)
  | .float x => (wholeOfFloat x).mapError .whole
  | j => .error (.whole (.kind j.kindName))

/-- The day that a value stands for. -/
def dateOf : Json → Except TypedFault Date
  | .text s | .brokenText s => (Date.ofIso s).mapError .date
  | _ => .error .noText

/-- The moment that a value stands for. -/
def timestampOf : Json → Except TypedFault Timestamp
  | .text s | .brokenText s => (Timestamp.ofText s).mapError .timestamp
  | _ => .error .noText

/-- The characters of a text, each a text of its own. -/
def characters (s : String) : List Cell := s.toList.map fun c => text (String.singleton c)

mutual

/-- A value as it stands. -/
def plain : Json → Cell
  | .null => null
  | .bool b => bool b
  | .int n => int n
  | .float x => float x
  | .text s | .brokenText s => text s
  | .list items => list (plainItems items)
  | .object entries | .brokenObject entries => record (plainEntries entries)

/-- Values of a list as they stand. -/
def plainItems : List Json → List Cell
  | [] => []
  | j :: rest => plain j :: plainItems rest

/-- Values under names as they stand. -/
def plainEntries : List (String × Json) → List (String × Cell)
  | [] => []
  | (key, j) :: rest => (key, plain j) :: plainEntries rest

end

mutual

/-- The cell that a value stands for. -/
def ofJson : Json → Except TypedFault Cell
  | .object [("decimal", j)] => decimal <$> decimalOf j
  | .object [("float", j)] => floatOf j
  | .object [("int", j)] => int <$> wholeOf j
  | .object [("date", j)] => date <$> dateOf j
  | .object [("datetime", j)] => timestamp <$> timestampOf j
  | .object [("list", .list items)] | .list items => list <$> ofItems items
  | .object [("list", .text s)] | .object [("list", .brokenText s)] => .ok (list (characters s))
  | .object [("list", .object entries)] => .ok (list (entries.map fun e => text e.1))
  | .object [("list", j)] => .error (.items j.kindName)
  | j => .ok (plain j)

/-- The cells that the items of a list stand for. -/
def ofItems : List Json → Except TypedFault (List Cell)
  | [] => .ok []
  | j :: rest => do return (← ofJson j) :: (← ofItems rest)

end

end Cell

end ActivityReport
