import ActivityReport.Number.Text

/-!
# Extended decimal numbers

Decimal numbers with two infinities and with values that are no number, as databases hand them over. Every
whole number and every double is one of them, so that numbers of all kinds are compared by their exact
values. Powers of ten are worked out only between numbers of one size.
-/

namespace ActivityReport

namespace Decimal

open Number

/-- The place of the first digit of a number that is not 0: so many digits stand before the point. -/
def magnitude (x : Decimal) : Int := x.exponent + (Nat.toDigits 10 x.digits).length

/-- The order of two sizes, signs left aside. -/
def compareSize (x y : Decimal) : Ordering :=
  if x.digits = 0 || y.digits = 0 then compare x.digits y.digits
  else
    match compare x.magnitude y.magnitude with
    | .eq => compare (x.digits * Nat.pow 10 (x.exponent - y.exponent).toNat)
        (y.digits * Nat.pow 10 (y.exponent - x.exponent).toNat)
    | order => order

/-- Whether a number is below 0. -/
def isBelowZero (x : Decimal) : Bool := x.negative && x.digits != 0

/-- The order of two numbers. -/
def order (x y : Decimal) : Ordering :=
  match x.isBelowZero, y.isBelowZero with
  | false, false => x.compareSize y
  | false, true => .gt
  | true, false => .lt
  | true, true => y.compareSize x

/-- A whole number. -/
def ofInt (n : Int) : Decimal := ⟨n < 0, n.natAbs, 0⟩

/-- The value of a finite double, with as many places as it needs: half a unit of a binary place is five
units of the next decimal one. -/
def ofParts (p : Parts) : Decimal :=
  let places := p.toRat.den.log2
  ⟨p.negative, p.toRat.num.natAbs * Nat.pow 5 places, -places⟩

/-- The greatest power of ten of a first digit. -/
def maxPower : Int := 999999999999999999

/-- The least power of ten of a last digit. -/
def minPower : Int := -1999999999999999997

/-- Whether a number lies within the range of powers of ten; of a 0 only the power counts that it was
written with. -/
def isInRange (x : Decimal) : Bool :=
  minPower ≤ x.exponent && (if x.digits = 0 then x.exponent else x.magnitude - 1) ≤ maxPower

/-- The exponent as it is written after the digits. -/
def exponentText (e : Int) : String := (if e < 0 then "E" else "E+") ++ toString e

/-- The text of a number: positional while it has no zeros to fill in and at most five zeros follow the
point, else with one digit before the point and a power of ten. -/
def text (x : Decimal) : String :=
  let ds := Nat.toDigits 10 x.digits
  let size := x.magnitude
  let point : Int := if x.exponent ≤ 0 && -6 < size then size else 1
  let whole := if point ≤ 0 then ['0'] else ds.take point.toNat
  let fraction := List.replicate (-point).toNat '0' ++ ds.drop point.toNat
  (if x.negative then "-" else "") ++ String.ofList whole ++
    (if fraction.isEmpty then "" else "." ++ String.ofList fraction) ++
    (if size = point then "" else exponentText (size - point))

example : (Decimal.mk false 250 (-2)).text = "2.50" ∧ (Decimal.mk true 1 3).text = "-1E+3" ∧
    (Decimal.mk false 0 (-10)).text = "0E-10" ∧ (Decimal.mk false 15 (-7)).text = "0.0000015" := by decide

end Decimal

/-- A decimal number, or what stands beside the numbers. -/
inductive ExtendedDecimal where
  | finite (x : Decimal)
  | infinite (negative : Bool)
  /-- Not a number, with a sign and digits of its own; a signaling one must not be worked with at all. -/
  | undefined (negative signaling : Bool) (payload : Nat)
  deriving Repr, DecidableEq

namespace ExtendedDecimal

open Number Text

/-- Whether it must not be worked with. -/
def isSignaling : ExtendedDecimal → Bool
  | undefined _ signaling _ => signaling
  | _ => false

/-- A whole number. -/
def ofInt (n : Int) : ExtendedDecimal := finite (Decimal.ofInt n)

/-- The value of a double. -/
def ofFloat (x : Float) : ExtendedDecimal :=
  match parts? x with
  | some p => finite (Decimal.ofParts p)
  | none => if x.isNaN then undefined false false 0 else infinite (isNegative x)

/-- Reads what stands beside the numbers, without its sign. -/
def named? (negative : Bool) (cs : List Char) : Option ExtendedDecimal :=
  let name := cs.takeWhile fun c => !isAsciiDigit c
  let ds := cs.dropWhile fun c => !isAsciiDigit c
  match String.ofList (name.map Char.toLower) with
  | "inf" | "infinity" => if ds.isEmpty then some (infinite negative) else none
  | "nan" => if ds.all isAsciiDigit then some (undefined negative false (digitRun ds)) else none
  | "snan" => if ds.all isAsciiDigit then some (undefined negative true (digitRun ds)) else none
  | _ => none

/-- Why a text is no decimal number. -/
inductive TextFault where
  | malformed
  /-- The number lies beyond the range of powers of ten. -/
  | outOfRange
  deriving Repr, DecidableEq

/-- Reads a decimal number as it is written; spacing around it and underscores do not count. -/
def ofText (s : String) : Except TextFault ExtendedDecimal :=
  let cs := (asciiDigits (trim isSpacing s.toList)).filter (· != '_')
  match decimal? cs with
  | some x => if x.isInRange then .ok (finite x) else .error .outOfRange
  | none =>
    let (negative, rest) := splitSign cs
    ((named? negative rest).map .ok).getD (.error .malformed)

/-- The text of a decimal number. -/
def text : ExtendedDecimal → String
  | finite x => x.text
  | infinite negative => if negative then "-Infinity" else "Infinity"
  | undefined negative signaling payload =>
    (if negative then "-" else "") ++ (if signaling then "sNaN" else "NaN") ++
      (if payload = 0 then "" else toString payload)

/-- The number that it stands for where numbers are whole or doubles. -/
def toNumber? : ExtendedDecimal → Option Numeral
  | finite x => x.toNumber?
  | _ => none

/-- The name of the kind of failure that work with what is no number ends in. -/
def misuseName : String := "InvalidOperation"

/-- Such a failure in words. -/
def misuseMessage : String := "[<class 'decimal.InvalidOperation'>]"

/-- The fault in words; to leave the range of powers of ten is a misuse as well. -/
def TextFault.message : TextFault → String
  | .malformed => "[<class 'decimal.ConversionSyntax'>]"
  | .outOfRange => misuseMessage

/-- The order of two numbers; not a number has no place among them. -/
def order? : ExtendedDecimal → ExtendedDecimal → Option Ordering
  | undefined .., _ | _, undefined .. => none
  | finite x, finite y => some (x.order y)
  | infinite a, infinite b => some (if a = b then .eq else if a then .lt else .gt)
  | infinite a, finite _ => some (if a then .lt else .gt)
  | finite _, infinite b => some (if b then .gt else .lt)

end ExtendedDecimal

end ActivityReport
