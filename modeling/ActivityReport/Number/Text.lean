import ActivityReport.Number.Decimal
import ActivityReport.Text.Blank
import ActivityReport.Text.Digit

/-!
# Numbers in text

The spellings of numbers that are accepted in cells: decimal digits of any script, single
underscores between digits, spacing around. `integer?` reads a whole number, `real?` a number with
a point or an exponent, and `number?` decides between the two by the presence of a point or an `e`.
-/

namespace ActivityReport.Number

open Text

/-- A whole number or a double. -/
inductive Numeral where
  | whole (n : Int)
  | real (x : Float)
  deriving Repr

/-- The longest run of digits that is read as a whole number. -/
def maxIntegerDigits : Nat := 4300

/-- The text with the digits of all scripts written as ASCII digits. -/
def asciiDigits (cs : List Char) : List Char :=
  cs.map fun c => ((decimalDigit? c).map Nat.digitChar).getD c

/-- Drops the underscores of a text; each must stand between two digits. -/
def dropSeparators (afterDigit : Bool) : List Char → Option (List Char)
  | [] => some []
  | '_' :: rest =>
    if afterDigit && rest.head?.any isAsciiDigit then dropSeparators false rest else none
  | c :: rest => (c :: ·) <$> dropSeparators (isAsciiDigit c) rest

/-- Splits a sign off a text. -/
def splitSign : List Char → Bool × List Char
  | '-' :: rest => (true, rest)
  | '+' :: rest => (false, rest)
  | cs => (false, cs)

/-- The number spelled by a run of ASCII digits. -/
def digitRun (cs : List Char) : Nat :=
  digitsValue (cs.map fun c => c.toNat - '0'.toNat)

/-- Splits the leading ASCII digits off a text. -/
def spanDigits (cs : List Char) : List Char × List Char :=
  (cs.takeWhile isAsciiDigit, cs.dropWhile isAsciiDigit)

/-- The text of a number in plain ASCII: without white space around it and separators. -/
def plain? (cs : List Char) : Option (List Char) :=
  dropSeparators false (asciiDigits (trim isBlank cs))

/-- Reads a whole number. -/
def integer? (cs : List Char) : Option Int := do
  let (negative, ds) := splitSign (← plain? cs)
  guard (!ds.isEmpty && ds.all isAsciiDigit && ds.length ≤ maxIntegerDigits)
  return if negative then -(digitRun ds : Int) else digitRun ds

/-- Reads the exponent part of a number: nothing, or `e` and a whole number. -/
def exponent? : List Char → Option Int
  | [] => some 0
  | c :: rest => do
    guard (c == 'e' || c == 'E')
    let (negative, ds) := splitSign rest
    guard (!ds.isEmpty && ds.all isAsciiDigit)
    return if negative then -(digitRun ds : Int) else digitRun ds

/-- Reads digits with an optional point and an optional exponent, after the sign. -/
def unsignedDecimal? (negative : Bool) (cs : List Char) : Option Decimal := do
  let (whole, rest) := spanDigits cs
  let (fraction, rest) := match rest with
    | '.' :: more => spanDigits more
    | more => ([], more)
  guard (!(whole ++ fraction).isEmpty)
  let e ← exponent? rest
  return ⟨negative, digitRun (whole ++ fraction), e - fraction.length⟩

/-- Reads a decimal number in plain ASCII. -/
def decimal? (cs : List Char) : Option Decimal :=
  let (negative, rest) := splitSign cs
  unsignedDecimal? negative rest

/-- Reads the names of the values that no digits spell: `inf`, `infinity`, `nan`. -/
def named? (cs : List Char) : Option Float :=
  let (negative, rest) := splitSign cs
  let name := String.ofList (rest.map Char.toLower)
  if name = "inf" ∨ name = "infinity" then
    some (Float.ofBits (UInt64.ofNat (signBit negative + infinityBits)))
  else if name = "nan" then some notANumber
  else none

/-- Reads a double. -/
def real? (cs : List Char) : Option Float := do
  let ascii ← plain? cs
  (decimal? ascii).map Decimal.toFloat <|> named? ascii

/-- Reads a number: a double when its text has a point or an exponent, else a whole number. -/
def number? (s : String) : Option Numeral :=
  let cs := trim isSpacing s.toList
  if cs.any fun c => c == '.' || c == 'e' || c == 'E' then (real? cs).map .real
  else (integer? cs).map .whole

end ActivityReport.Number

namespace ActivityReport.Decimal

open ActivityReport.Number Text

/-- The number a decimal stands for: whole when it was written without a power of ten. -/
def toNumber? (x : Decimal) : Option Number.Numeral :=
  match x.toInt? with
  | some n => if x.digits < Nat.pow 10 maxIntegerDigits then some (.whole n) else none
  | none => some (.real x.toFloat)

end ActivityReport.Decimal
