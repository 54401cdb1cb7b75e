import ActivityReport.Cell.Order
import ActivityReport.Ladder.Level
import ActivityReport.Number.Quotient

/-!
# Levels from readings

The level of an actor whose totals are cells. Whole totals have the level that `Ladder.measure` gives them.
A double is compared with a threshold by its exact value, so that not-a-number exceeds none, and its share
of the way to the next rung is worked out in doubles. The share of a decimal number is decimal; one that is
no number is refused. So is a cell of another kind, which has no order with numbers, where a comparison or a
share needs it.
-/

namespace ActivityReport

/-- A total as it was read. -/
inductive Reading where
  | number (n : Number.Numeral)
  | decimal (x : ExtendedDecimal)
  /-- Not a number but a value of another kind. -/
  | other (kind : String)
  deriving Repr

/-- A cell as a total. -/
def Cell.toReading : Cell → Reading
  | int n => .number (.whole n)
  | bool b => .number (.whole (if b then 1 else 0))
  | float x => .number (.real x)
  | minusNaN => .number (.real Number.notANumber)
  | decimal x => .decimal x
  | c => .other c.kindName

/-- The level reached with some readings: as `Level`, with the progress as a double. -/
structure Gauge where
  rung : Option Rung
  index : Int
  progress : Float
  deriving Repr

namespace Gauge

/-- A level with its progress as a double. -/
def ofLevel (l : Level) : Gauge := ⟨l.rung, l.index, l.shownProgress⟩

/-- The identifier of the rung. -/
def id? (g : Gauge) : Option String := g.rung.map Rung.id

/-- The rank: by rung first, by progress second. -/
def sortOrder (g : Gauge) : Float := Number.ofInt (g.index + 1) + g.progress

end Gauge

/-- A share of the way to the next rung. -/
inductive Share where
  | real (x : Float)
  | decimal (x : ExtendedDecimal)
  deriving Repr

namespace Share

/-- Whether a share is below another. A double that is no number is below none and has none below it. -/
def isBelow (a b : Share) : Except LevelFault Bool :=
  match a, b with
  | real x, real y => .ok (x < y)
  | real x, decimal y => among ((ExtendedDecimal.ofFloat x).order? y)
  | decimal x, real y => among (x.order? (ExtendedDecimal.ofFloat y))
  | decimal x, decimal y => among (x.order? y)
where
  /-- Whether an order is that of a lesser share, if there is one. -/
  among : Option Ordering → Except LevelFault Bool
  | some order => .ok (order == .lt)
  | none => .error .notANumber

/-- The smaller of two shares; the first of them unless the second is below it. -/
def smaller (a b : Share) : Except LevelFault Share := do
  return if ← b.isBelow a then b else a

/-- A share kept between 0 and 1; a double that is no number counts as 1. -/
def clamped (s : Share) : Except LevelFault Share := do
  let capped ← smaller (real 1) s
  return if ← (real 0).isBelow capped then capped else real 0

/-- A share as a double. -/
def toFloat : Share → Float
  | real x => x
  | decimal (.finite x) => x.toFloat
  | decimal (.infinite negative) => Float.ofBits (UInt64.ofNat (Number.signBit negative + Number.infinityBits))
  | decimal (.undefined ..) => 0

end Share

namespace Reading

/-- Whether a total exceeds a threshold. -/
def exceeds (r : Reading) (threshold : Nat) : Except LevelFault Bool :=
  match r with
  | number n => .ok (n.compare (.whole threshold) == .gt)
  | decimal x =>
    match x.order? (.ofInt threshold) with
    | some order => .ok (order == .gt)
    | none => .error .notANumber
  | other kind => .error (.order kind)

/-- A difference of thresholds as a double. -/
def double (n : Int) : Except LevelFault Float :=
  if Number.isWithinDoubles n then .ok (Number.ofInt n) else .error .threshold

/-- The share of the way from one threshold to the next; a step without width is covered. -/
def share (r : Reading) (current target : Int) : Except LevelFault Share :=
  if target ≤ current then .ok (.real 1)
  else match r with
    | number (.whole n) =>
      let s := stepProgress n current target
      if Number.isWithinDoubles s then .ok (.real (Number.ofRat s)) else .error .share
    | number (.real x) => do return .real ((x - (← double current)) / (← double (target - current)))
    | decimal (.finite x) =>
      match x.minusInt? current with
      | some way => .ok (.decimal (.finite (way.dividedBy (target - current).toNat)))
      | none => .error .tooLong
    | decimal (.infinite negative) => .ok (.decimal (.infinite negative))
    | decimal (.undefined ..) => .error .notANumber
    | other kind => .error (.difference kind)

end Reading

/-- Whether both thresholds of a rung are exceeded; the days count only when the contributions do. -/
def Rung.isExceededBy (r : Rung) (contributions activeDays : Reading) : Except LevelFault Bool := do
  if ← contributions.exceeds r.contributions then activeDays.exceeds r.activeDays else return false

namespace Ladder

/-- The place of the last rung whose thresholds are both exceeded by some readings. -/
def reachedIndex? (ladder : Ladder) (contributions activeDays : Reading) :
    Except LevelFault (Option Nat) := do
  let exceeded ← ladder.mapM (·.isExceededBy contributions activeDays)
  return (exceeded.zipIdx.filter Prod.fst).getLast?.map Prod.snd

/-- The progress from a place to the rung above, in doubles. -/
def reachedProgress (ladder : Ladder) (place : Option Nat) (contributions activeDays : Reading) :
    Except LevelFault Float :=
  match ladder.rungAbove? place with
  | none => .ok 0
  | some next => do
    let c ← contributions.share (ladder.ground place Rung.contributions) next.contributions
    let d ← activeDays.share (ladder.ground place Rung.activeDays) next.activeDays
    return (← (← c.smaller d).clamped).toFloat

/-- The level reached with some readings. -/
def gauge (ladder : Ladder) : Reading → Reading → Except LevelFault Gauge
  | .number (.whole c), .number (.whole d) => Gauge.ofLevel <$> ladder.measure c d
  | c, d => do
    let place ← ladder.reachedIndex? c d
    let progress ← ladder.reachedProgress place c d
    return ⟨ladder.rungAt? place, (place.map fun i => (i : Int)).getD (-1), progress⟩

end Ladder

end ActivityReport
