/-!
# Double-precision numbers as fractions

The exact side of double-precision numbers: `ofFraction` is the double nearest to a fraction (a tie
goes to the even neighbour, too large a fraction becomes infinite), and `parts?` gives back the
exact value of a finite double as `mantissa * 2 ^ exponent`.
-/

namespace ActivityReport.Number

/-- The integer nearest to `n / d`; a tie goes to the even neighbour. -/
def roundDiv (n d : Nat) : Nat :=
  let q := n / d
  let r := n % d
  if 2 * r > d || (2 * r == d && q % 2 == 1) then q + 1 else q

/-- The largest `e` with `2 ^ e ≤ n / d`, for positive `n` and `d`. -/
def floorLog2 (n d : Nat) : Int :=
  let e : Int := (n.log2 : Int) - (d.log2 : Int)
  let reaches := if e ≥ 0 then d <<< e.toNat ≤ n else d ≤ n <<< (-e).toNat
  if reaches then e else e - 1

/-- Whether a whole number is a signed 64-bit word. -/
def fitsWord (n : Int) : Bool := -9223372036854775808 ≤ n && n ≤ 9223372036854775807

/-- The least mantissa of a double that is not subnormal. -/
def hiddenBit : Nat := 0x10000000000000

/-- The bit that carries the sign. -/
def signBit (negative : Bool) : Nat := if negative then 0x8000000000000000 else 0

/-- The bits of infinity. -/
def infinityBits : Nat := 0x7FF0000000000000

/-- Not-a-number. -/
def notANumber : Float := Float.ofBits (UInt64.ofNat (infinityBits + hiddenBit / 2))

/-- The bits of the double nearest to the fraction `n / d`, without its sign. -/
def fractionBits (n d : Nat) : Nat :=
  if n = 0 then 0
  else
    let q : Int := max (floorLog2 n d - 52) (-1074)
    let m := if q ≥ 0 then roundDiv n (d <<< q.toNat) else roundDiv (n <<< (-q).toNat) d
    if m < hiddenBit then m
    else min ((q + 1075).toNat * hiddenBit + (m - hiddenBit)) infinityBits

/-- The double nearest to `± n / d`. -/
def ofFraction (negative : Bool) (n d : Nat) : Float :=
  Float.ofBits (UInt64.ofNat (signBit negative + fractionBits n d))

/-- The double nearest to a rational number. -/
def ofRat (r : Rat) : Float := ofFraction (r.num < 0) r.num.natAbs r.den

/-- Whether the double nearest to a rational number is finite. -/
def isWithinDoubles (r : Rat) : Bool := fractionBits r.num.natAbs r.den < infinityBits

/-- The double nearest to an integer. -/
def ofInt (n : Int) : Float := ofFraction (n < 0) n.natAbs 1

/-- The sign, mantissa and binary exponent of a finite double. -/
structure Parts where
  negative : Bool
  mantissa : Nat
  exponent : Int
  deriving Repr, DecidableEq

/-- The parts of a double; infinities and not-a-number have none. -/
def parts? (x : Float) : Option Parts :=
  let bits := x.toBits.toNat
  let negative := bits ≥ signBit true
  let biased : Nat := bits / hiddenBit % 2048
  let rest : Nat := bits % hiddenBit
  if biased = 2047 then none
  else if biased = 0 then some ⟨negative, rest, -1074⟩
  else some ⟨negative, rest + hiddenBit, (biased : Int) - 1075⟩

/-- The exact value of the parts. -/
def Parts.toRat (p : Parts) : Rat :=
  let size : Rat := if p.exponent ≥ 0 then mkRat (p.mantissa <<< p.exponent.toNat) 1
    else mkRat p.mantissa (1 <<< (-p.exponent).toNat)
  if p.negative then -size else size

/-- Whether the double carries a minus sign. -/
def isNegative (x : Float) : Bool := x.toBits.toNat ≥ signBit true

/-- The whole part of the parts, cut toward zero. -/
def Parts.truncate (p : Parts) : Int :=
  let size := if p.exponent ≥ 0 then p.mantissa <<< p.exponent.toNat
    else p.mantissa >>> (-p.exponent).toNat
  if p.negative then -(size : Int) else size

/-- The whole part of a double, cut toward zero. -/
def truncate? (x : Float) : Option Int := (parts? x).map Parts.truncate

/-- The integer that a double equals. -/
def whole? (x : Float) : Option Int :=
  (truncate? x).filter fun n => (parts? x).any fun p => p.toRat == (n : Rat)

/-- A rounded quotient is within half a unit of the quotient. -/
theorem roundDiv_bounds (n d : Nat) (pos : 0 < d) :
    2 * n ≤ 2 * d * roundDiv n d + d ∧ 2 * d * roundDiv n d ≤ 2 * n + d := by
  have split : n = d * (n / d) + n % d := (Nat.div_add_mod n d).symm
  have small : n % d < d := Nat.mod_lt _ pos
  unfold roundDiv
  simp only
  split
  · rename_i up
    simp only [Bool.or_eq_true, decide_eq_true_eq, Bool.and_eq_true, beq_iff_eq] at up
    have : 2 * d * (n / d + 1) = 2 * (d * (n / d)) + 2 * d := by
      rw [Nat.mul_add, Nat.mul_one, Nat.mul_assoc]
    omega
  · rename_i down
    simp only [Bool.or_eq_true, decide_eq_true_eq, Bool.and_eq_true, beq_iff_eq, not_or] at down
    have : 2 * d * (n / d) = 2 * (d * (n / d)) := Nat.mul_assoc ..
    omega

end ActivityReport.Number
