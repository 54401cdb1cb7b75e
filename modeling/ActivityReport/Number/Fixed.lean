import ActivityReport.Number.Binary

/-!
# Numbers with two places

A double written with two decimal places: the exact value is rounded to the nearest hundredth, a tie
to the even neighbour, and a minus sign stays even when nothing else does.
-/

namespace ActivityReport.Number

/-- A natural number of hundredths, with a point before the last two digits. -/
def hundredths (n : Nat) : String :=
  let pad := if n % 100 < 10 then "0" else ""
  s!"{n / 100}.{pad}{n % 100}"

/-- A double with two decimal places. -/
def fixed2 (x : Float) : String :=
  let sign := if isNegative x then "-" else ""
  match parts? x with
  | some p =>
    let n := if p.exponent ≥ 0 then (100 * p.mantissa) <<< p.exponent.toNat
      else roundDiv (100 * p.mantissa) (1 <<< (-p.exponent).toNat)
    sign ++ hundredths n
  | none => if x.isNaN then "nan" else sign ++ "inf"

end ActivityReport.Number
