import ActivityReport.Number.Order

/-!
# Amounts

Sums in a store of 64-bit integers. A sum that fits a signed 64-bit word is exact; one that does not is
held as a double from there on.
-/

namespace ActivityReport

open Number (fitsWord)

/-- An exact whole number, or a double. -/
abbrev Amount := Number.Numeral

namespace Amount

open Number

/-- The amount as a double. -/
def toFloat : Amount → Float
  | .whole n => ofInt n
  | .real x => x

/-- An operation on amounts: exact while the result fits a word. -/
def combine (exact : Int → Int → Int) (rounded : Float → Float → Float) (a b : Amount) : Amount :=
  match a, b with
  | .whole m, .whole n =>
    if fitsWord (exact m n) then .whole (exact m n) else .real (rounded (ofInt m) (ofInt n))
  | a, b => .real (rounded (toFloat a) (toFloat b))

/-- The sum of two amounts. -/
def add (a b : Amount) : Amount := combine (· + ·) (· + ·) a b

/-- The difference of two amounts. -/
def sub (a b : Amount) : Amount := combine (· - ·) (· - ·) a b

/-- A sum that fits a word is exact. -/
theorem add_whole {m n : Int} (h : fitsWord (m + n) = true) :
    add (.whole m) (.whole n) = .whole (m + n) := by
  simp [add, combine, h]

/-- A difference that fits a word is exact. -/
theorem sub_whole {m n : Int} (h : fitsWord (m - n) = true) :
    sub (.whole m) (.whole n) = .whole (m - n) := by
  simp [sub, combine, h]

end Amount

end ActivityReport
