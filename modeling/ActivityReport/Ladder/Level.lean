import ActivityReport.Ladder.Rung
import ActivityReport.Number.Whole

/-!
# Levels

The level of an actor is the last rung of the ladder whose two thresholds are both exceeded. The progress
to the next rung is the smaller of the shares of the way covered in contributions and in active days;
on the last rung there is none. Progress is kept as an exact fraction and shown as a double; a share that
no finite double is near to cannot be measured.
-/

namespace ActivityReport

/-- The level of an actor at one moment; without a rung the index is -1. -/
structure Level where
  rung : Option Rung
  index : Int
  progress : Rat
  deriving DecidableEq, Repr

namespace Level

/-- No level. -/
def none : Level := ⟨Option.none, -1, 0⟩

/-- The identifier of the rung. -/
def id? (l : Level) : Option String := l.rung.map Rung.id

/-- The rank of a level: by rung first, by progress second. -/
def sortOrder (l : Level) : Rat := (l.index + 1 : Int) + l.progress

/-- The progress as a double. -/
def shownProgress (l : Level) : Float := Number.ofRat l.progress

/-- The rank as a double. -/
def shownSortOrder (l : Level) : Float := Number.ofInt (l.index + 1) + l.shownProgress

end Level

/-- Why a level cannot be worked out. -/
inductive LevelFault where
  /-- A total is no whole number. -/
  | total (f : Number.WholeFault)
  /-- A share of the way to the next rung is too large. -/
  | share
  /-- A threshold that meets a double is too large for one. -/
  | threshold
  /-- A total is of a kind that has no order with numbers. -/
  | order (kind : String)
  /-- A total is of a kind from which no number can be taken. -/
  | difference (kind : String)
  /-- A decimal total, or what it is compared with, is no number. -/
  | notANumber
  /-- A decimal total has too many digits to be worked with. -/
  | tooLong
  deriving DecidableEq, Repr

namespace LevelFault

/-- The name of the kind of a fault. -/
def name : LevelFault → String
  | total f => f.name
  | share | threshold => "OverflowError"
  | order _ | difference _ => "TypeError"
  | notANumber => ExtendedDecimal.misuseName
  | tooLong => "Overflow"

/-- The fault in words. -/
def message : LevelFault → String
  | total f => f.message
  | share => "integer division result too large for a float"
  | threshold => "int too large to convert to float"
  | order kind => s!"'>' not supported between instances of '{kind}' and 'int'"
  | difference kind => s!"unsupported operand type(s) for -: '{kind}' and 'int'"
  | notANumber => ExtendedDecimal.misuseMessage
  | tooLong => "[<class 'decimal.Overflow'>]"

end LevelFault

/-- Whether both thresholds of a rung are exceeded. -/
def Rung.isExceeded (r : Rung) (contributions activeDays : Int) : Bool :=
  r.contributions < contributions && r.activeDays < activeDays

/-- The share of the way from one threshold to the next; a step without width is covered. -/
def stepProgress (value current target : Int) : Rat :=
  if target ≤ current then 1 else mkRat (value - current) (target - current).toNat

/-- A fraction kept between 0 and 1. -/
def clampFraction (r : Rat) : Rat := if r ≤ 0 then 0 else if 1 ≤ r then 1 else r

namespace Ladder

/-- The place of the last rung whose thresholds are both exceeded. -/
def heldIndex? (ladder : Ladder) (contributions activeDays : Int) : Option Nat :=
  match ladder with
  | [] => none
  | rung :: rest =>
    match heldIndex? rest contributions activeDays with
    | some i => some (i + 1)
    | none => if rung.isExceeded contributions activeDays then some 0 else none

/-- The rung at a place, if any. -/
def rungAt? (ladder : Ladder) (place : Option Nat) : Option Rung := place.bind (ladder[·]?)

/-- The rung above a place; above the ground it is the first. -/
def rungAbove? (ladder : Ladder) (place : Option Nat) : Option Rung :=
  ladder[(place.map (· + 1)).getD 0]?

/-- A threshold of the rung at a place; on the ground it is 0. -/
def ground (ladder : Ladder) (place : Option Nat) (threshold : Rung → Nat) : Int :=
  ((ladder.rungAt? place).map fun r => (threshold r : Int)).getD 0

/-- The shares of the way to the rung above, in contributions and in active days. -/
def shares? (ladder : Ladder) (place : Option Nat) (contributions activeDays : Int) : Option (Rat × Rat) :=
  (ladder.rungAbove? place).map fun next =>
    (stepProgress contributions (ladder.ground place Rung.contributions) next.contributions,
      stepProgress activeDays (ladder.ground place Rung.activeDays) next.activeDays)

/-- The level reached with some totals. -/
def level (ladder : Ladder) (contributions activeDays : Int) : Level :=
  let place := ladder.heldIndex? contributions activeDays
  ⟨ladder.rungAt? place, (place.map fun i => (i : Int)).getD (-1),
    ((ladder.shares? place contributions activeDays).map fun (c, d) =>
      clampFraction (if d < c then d else c)).getD 0⟩

/-- Whether the shares of the way to the rung above can be worked out as doubles. -/
def isMeasurable (ladder : Ladder) (contributions activeDays : Int) : Bool :=
  (ladder.shares? (ladder.heldIndex? contributions activeDays) contributions activeDays).all
    fun (c, d) => Number.isWithinDoubles c && Number.isWithinDoubles d

/-- The level reached with some totals, unless its shares are out of reach. -/
def measure (ladder : Ladder) (contributions activeDays : Int) : Except LevelFault Level :=
  if ladder.isMeasurable contributions activeDays then .ok (ladder.level contributions activeDays)
  else .error .share

end Ladder

end ActivityReport
