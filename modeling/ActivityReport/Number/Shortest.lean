import ActivityReport.Number.Binary

/-!
# Shortest decimal text of a double

The fewest decimal digits that read back as the same double, nearest to it among those. For one
digit, two digits and so on the two neighbours on that decimal grid are tested against the interval
of numbers that round to the double; the first grid with a hit wins. A number is written
positionally while its decimal exponent lies between -4 and 15.
-/

namespace ActivityReport.Number

/-- Digits `d₁d₂…dₙ` and the exponent `e` of `0.d₁d₂…dₙ · 10 ^ e`. -/
structure Digits where
  digits : List Char
  exponent : Int
  deriving Repr, DecidableEq

/-- The exact value `m * 2 ^ q` as a numerator over a denominator. -/
def binaryFraction (m : Nat) (q : Int) : Nat × Nat :=
  if q ≥ 0 then (m <<< q.toNat, 1) else (m, 1 <<< (-q).toNat)

/-- Whether `a / b` rounds to the double `m * 2 ^ q`, for a positive denominator. -/
def roundsTo (m : Nat) (q : Int) (a b : Nat) : Bool :=
  let even := m % 2 == 0
  let (hn, hd) := binaryFraction (2 * m + 1) (q - 1)
  let (ln, ld) :=
    if m == hiddenBit && q > -1074 then binaryFraction (4 * m - 1) (q - 2)
    else binaryFraction (2 * m - 1) (q - 1)
  let above := if even then ln * b ≤ a * ld else ln * b < a * ld
  let below := if even then a * hd ≤ hn * b else a * hd < hn * b
  above && below

/-- Whether `n / d < 10 ^ e`. -/
def belowPower (n d : Nat) (e : Int) : Bool :=
  if e ≥ 0 then n < d * Nat.pow 10 e.toNat else n * Nat.pow 10 (-e).toNat < d

/-- The smallest `e` with `n / d < 10 ^ e`, one of the few that the binary size leaves possible. -/
def decimalExponent (n d : Nat) : Int :=
  let guess : Int := floorLog2 n d * 30103 / 100000
  ([guess - 1, guess, guess + 1, guess + 2].find? (belowPower n d)).getD (guess + 3)

/-- The nearest hit among the two grid neighbours of `n / d` with steps of `10 ^ (e - k)`. -/
def gridHit (m : Nat) (q : Int) (n d : Nat) (e : Int) (k : Nat) : Option Nat :=
  let s : Int := e - k
  let (gn, gd) := if s ≥ 0 then (Nat.pow 10 s.toNat, 1) else (1, Nat.pow 10 (-s).toNat)
  let low := n * gd / (d * gn)
  let fits (g : Nat) : Bool := roundsTo m q (g * gn) gd
  match fits low, fits (low + 1) with
  | true, true =>
    let twice := 2 * n * gd
    let middle := (2 * low + 1) * d * gn
    if twice < middle || (twice == middle && low % 2 == 0) then some low else some (low + 1)
  | true, false => some low
  | false, true => some (low + 1)
  | false, false => none

/-- The shortest digits of a positive double `m * 2 ^ q`. -/
def shortestDigits (m : Nat) (q : Int) : Digits :=
  let (n, d) := binaryFraction m q
  let e := decimalExponent n d
  match (List.range 17).findSome? fun i => (gridHit m q n d e (i + 1)).map fun g => (g, i + 1) with
  | none => ⟨['0'], 0⟩
  | some (g, k) =>
    let ds := (toString g).toList
    let kept := (ds.reverse.dropWhile (· == '0')).reverse
    ⟨kept, e - k + ds.length⟩

/-- The digits with a point, or with an exponent when positional digits would be too many. -/
def Digits.render (x : Digits) : String :=
  let text (cs : List Char) := String.ofList cs
  let count : Int := x.digits.length
  if -4 < x.exponent ∧ x.exponent ≤ 16 then
    if x.exponent ≤ 0 then "0." ++ text (List.replicate (-x.exponent).toNat '0' ++ x.digits)
    else if x.exponent ≥ count then
      text (x.digits ++ List.replicate (x.exponent - count).toNat '0') ++ ".0"
    else text (x.digits.take x.exponent.toNat) ++ "." ++ text (x.digits.drop x.exponent.toNat)
  else
    let e := x.exponent - 1
    let size := toString e.natAbs
    let power := (if e < 0 then "e-" else "e+") ++ (if e.natAbs < 10 then "0" ++ size else size)
    match x.digits with
    | [] => "0.0"
    | [d] => text [d] ++ power
    | d :: ds => text (d :: '.' :: ds) ++ power

/-- The shortest text of a double. -/
def shortest (x : Float) : String :=
  let sign := if isNegative x then "-" else ""
  match parts? x with
  | some p => if p.mantissa = 0 then sign ++ "0.0" else sign ++ (shortestDigits p.mantissa p.exponent).render
  | none => if x.isNaN then "nan" else sign ++ "inf"

end ActivityReport.Number
