import ActivityReport.Number.Text

/-!
# Order of numbers

Numbers of both kinds are compared by their exact values. The `Extent` of a number is its place among
the rational numbers and the two infinities; not-a-number has none.
-/

namespace ActivityReport.Number

/-- The place of a number: a rational number, or beyond all of them on one side. -/
inductive Extent where
  | below
  | value (r : Rat)
  | above
  deriving DecidableEq, Repr

namespace Extent

/-- The order of two places. -/
def compare : Extent → Extent → Ordering
  | below, below => .eq
  | below, _ => .lt
  | value _, below => .gt
  | value a, value b => if a < b then .lt else if b < a then .gt else .eq
  | value _, above => .lt
  | above, above => .eq
  | above, _ => .gt

end Extent

/-- The place of a double. -/
def extentOfFloat? (x : Float) : Option Extent :=
  match parts? x with
  | some p => some (.value p.toRat)
  | none => if x.isNaN then none else some (if isNegative x then .below else .above)

/-- The place of a number. -/
def Numeral.extent? : Numeral → Option Extent
  | .whole n => some (.value n)
  | .real x => extentOfFloat? x

/-- The order of two numbers; not-a-number is neither below nor above any. -/
def Numeral.compare (a b : Numeral) : Ordering :=
  match a, b with
  | .whole m, .whole n => Ord.compare m n
  | _, _ =>
    match a.extent?, b.extent? with
    | some x, some y => x.compare y
    | _, _ => .eq

end ActivityReport.Number
