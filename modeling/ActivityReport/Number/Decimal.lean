import ActivityReport.Number.Binary

/-!
# Decimal numbers

A decimal number keeps the digits and the power of ten it was written with, so that `25` and `2.5e1`
stay apart. `Decimal.toFloat` is the double nearest to it.
-/

namespace ActivityReport

/-- The number `± digits * 10 ^ exponent`. -/
structure Decimal where
  negative : Bool
  digits : Nat
  exponent : Int
  deriving Repr, DecidableEq

namespace Decimal

/-- A bound on the number of decimal digits of a positive number. -/
def sizeBound (n : Nat) : Nat := n.log2 / 3 + 1

/-- The double nearest to a decimal number; far outside the range of doubles the powers of ten are
not worked out. -/
def toFloat (x : Decimal) : Float :=
  let ofSize (bits : Nat) : Float := Float.ofBits (UInt64.ofNat (Number.signBit x.negative + bits))
  if x.digits = 0 then ofSize 0
  else if x.exponent > 400 then ofSize Number.infinityBits
  else if x.exponent + (sizeBound x.digits : Int) < -400 then ofSize 0
  else if x.exponent ≥ 0 then Number.ofFraction x.negative (x.digits * Nat.pow 10 x.exponent.toNat) 1
  else Number.ofFraction x.negative x.digits (Nat.pow 10 (-x.exponent).toNat)

/-- The greatest number of zeros that are written out behind a whole number. -/
def maxZeros : Int := 10000000

/-- The number without what follows its point; nothing is left of one that is far below 1, and one with too
many zeros has no whole number. -/
def truncate? (x : Decimal) : Option Int :=
  let signed (size : Nat) : Int := if x.negative then -(size : Int) else size
  if x.digits = 0 || x.exponent + (sizeBound x.digits : Int) < 0 then some 0
  else if maxZeros < x.exponent then none
  else if 0 ≤ x.exponent then some (signed (x.digits * Nat.pow 10 x.exponent.toNat))
  else some (signed (x.digits / Nat.pow 10 (-x.exponent).toNat))

/-- The integer written by a decimal number without a power of ten. -/
def toInt? (x : Decimal) : Option Int :=
  if x.exponent = 0 then some (if x.negative then -(x.digits : Int) else x.digits) else none

end Decimal

end ActivityReport
