import ActivityReport.Number.Extended

/-!
# Decimal differences and quotients

Differences and quotients of decimal numbers, rounded to 28 digits; a tie goes to the even neighbour.
-/

namespace ActivityReport.Decimal

open Number

/-- The number of digits to which results are rounded. -/
def precision : Nat := 28

/-- The greatest number of digits before the point of a result. -/
def maxMagnitude : Int := 1000000

/-- A number rounded to the digits of a result. -/
def rounded (x : Decimal) : Decimal :=
  let surplus := (Nat.toDigits 10 x.digits).length - precision
  if surplus = 0 then x else ⟨x.negative, roundDiv x.digits (Nat.pow 10 surplus), x.exponent + surplus⟩

/-- A number that is not 0 and smaller than any result tells apart is as good as every other one. -/
def lifted (x : Decimal) : Decimal :=
  if x.digits = 0 then ⟨x.negative, 0, 0⟩ else if x.magnitude < -1000 then ⟨x.negative, 1, -1000⟩ else x

/-- The number in units of a power of ten that is not above its own. -/
def units (x : Decimal) (exponent : Int) : Int :=
  let size : Int := x.digits * Nat.pow 10 (x.exponent - exponent).toNat
  if x.negative then -size else size

/-- The unit in which a whole number is taken off, as a power of ten, and the number in it. All digits of
the result lie above the grain; a number below the grain counts as a tenth of it, for only its sign matters. -/
def subtrahend (x : Decimal) (n : Int) : Int × Int :=
  let grain := min x.exponent (x.magnitude - 2 * precision)
  let unit := min x.exponent 0
  if (Nat.toDigits 10 n.natAbs).length ≤ grain then (grain - 1, n.sign)
  else (unit, n * Nat.pow 10 (-unit).toNat)

/-- A number less a whole number; there is none when the result has too many digits. -/
def minusInt? (x : Decimal) (n : Int) : Option Decimal :=
  let (unit, less) := x.lifted.subtrahend n
  let difference := x.lifted.units unit - less
  let result := rounded ⟨difference < 0, difference.natAbs, unit⟩
  if maxMagnitude < result.magnitude then none else some result

/-- A number divided by a positive whole number: a digit behind the result tells that something is left. -/
def dividedBy (x : Decimal) (n : Nat) : Decimal :=
  let more := precision + (Nat.toDigits 10 n).length
  let scaled := x.digits * Nat.pow 10 more
  rounded ⟨x.negative, 10 * (scaled / n) + (if scaled % n = 0 then 0 else 1), x.exponent - more - 1⟩

example : (Decimal.mk false 1 0).dividedBy 3 = ⟨false, 3333333333333333333333333333, -28⟩ := by decide

end ActivityReport.Decimal
