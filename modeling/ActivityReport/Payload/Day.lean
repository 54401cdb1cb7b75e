import ActivityReport.Calendar.Text
import ActivityReport.Payload.Scalar

/-!
# Days of a payload

A day may be written as `YYYY-MM-DD`, as a date and a time of day that is midnight, or as a number of
seconds since 1 January 1970 that is midnight. A number beyond twenty thousand million counts
milliseconds instead of seconds, and its fraction is one of a millisecond.
-/

namespace ActivityReport.Payload

open Checked Number Text

/-- What a text or number says about a day: the day, unless it lies in the year 0, and the time of day in
microseconds. -/
structure Moment where
  day : Option Date
  time : Nat
  deriving DecidableEq, Repr

/-! ## Texts -/

/-- Reads two ASCII digits. -/
def twoDigits (cs : List Char) : Option (Nat × List Char) := Date.readDigits 2 cs

/-- Reads an expected character. -/
def expect (c : Char) : List Char → Option (List Char)
  | x :: rest => if x == c then some rest else none
  | [] => none

/-- Reads `YYYY-MM-DD` at the head of a text; the year may be 0. -/
def dayHead? (cs : List Char) : Option ((Nat × Nat × Nat) × List Char) := do
  let (y, rest) ← Date.readDigits 4 cs
  let (m, rest) ← twoDigits (← expect '-' rest)
  let (d, rest) ← twoDigits (← expect '-' rest)
  guard (1 ≤ m && m ≤ 12 && 1 ≤ d && d ≤ Date.daysInMonth y m)
  return ((y, m, d), rest)

/-- The first six digits of a fraction of a second, in microseconds. -/
def microseconds (ds : List Char) : Nat :=
  let kept := ds.take 6
  digitRun kept * Nat.pow 10 (6 - kept.length)

/-- Reads the seconds of a time of day, in microseconds; they may be left out. -/
def seconds? (cs : List Char) : Option (Nat × List Char) :=
  match cs with
  | ':' :: rest => do
    let (s, rest) ← twoDigits rest
    guard (s ≤ 59)
    match rest with
    | c :: more =>
      if c == '.' || c == ',' then
        let (ds, rest) := spanDigits more
        guard (!ds.isEmpty)
        return (s * 1000000 + microseconds ds, rest)
      else return (s * 1000000, rest)
    | [] => return (s * 1000000, [])
  | rest => some (0, rest)

/-- Reads a time of day, in microseconds. -/
def timeOfDay? (cs : List Char) : Option (Nat × List Char) := do
  let (h, rest) ← twoDigits cs
  let (m, rest) ← twoDigits (← expect ':' rest)
  guard (h ≤ 23 && m ≤ 59)
  let (s, rest) ← seconds? rest
  return ((h * 60 + m) * 60000000 + s, rest)

/-- The minus sign of mathematics. -/
def minusSign : Char := Char.ofNat 0x2212

/-- Whether a text is a time zone, or nothing. -/
def isZone : List Char → Bool
  | [] => true
  | ['Z'] | ['z'] => true
  | sign :: rest =>
    (sign == '+' || sign == '-' || sign == minusSign) &&
    match twoDigits rest with
    | none => false
    | some (h, rest) =>
      match twoDigits (if rest.head? == some ':' then rest.drop 1 else rest) with
      | some (m, []) => h ≤ 23 && m ≤ 59
      | _ => false

/-- Reads a date with or without a time of day. -/
def momentOfText? (cs : List Char) : Option Moment := do
  let ((y, m, d), rest) ← dayHead? cs
  match rest with
  | [] => return ⟨Date.ofYmd? y m d, 0⟩
  | separator :: rest =>
    guard (['T', 't', ' ', '_'].contains separator)
    let (time, rest) ← timeOfDay? rest
    guard (isZone rest)
    return ⟨Date.ofYmd? y m d, time⟩

/-! ## Numbers -/

/-- The seconds of the first and the last instant that a number may name: the beginning of the year 0 and
the end of 31 December 9999. -/
def secondBounds : Int × Int := (-62167219200, 253402300799)

/-- Beyond this size a number counts milliseconds. -/
def millisecondBound : Int := 20000000000

/-- The number of microseconds of the unit in which a number counts. -/
def unitOf (n : Int) : Nat := if n.natAbs > millisecondBound.natAbs then 1000 else 1000000

/-- The ordinal of 1 January 1970. -/
def epochOrdinal : Int := 719163

/-- The instant `n` seconds (or milliseconds) and some microseconds after the beginning of 1970. -/
def momentOfNumber? (n : Int) (micros : Nat) : Option Moment := do
  guard (fitsWord n)
  let total := n * unitOf n + micros
  let second := total.fdiv 1000000
  guard (secondBounds.1 ≤ second && second ≤ secondBounds.2)
  return ⟨Date.ofOrdinal? (epochOrdinal + second.fdiv 86400), (total.fmod 86400000000).toNat⟩

/-- The instant that a double names: the whole number below it, and what is left in microseconds, half of
one rounded up. -/
def momentOfFloat? (x : Float) : Option Moment := do
  let n := (← parts? x).toRat.floor
  let micros := (← parts? ((x - ofInt n) * ofInt (unitOf n))).toRat
  momentOfNumber? n (micros + 1 / 2).floor.toNat

/-- The instant that a text of digits names. A text with a point is read as a double, and may have an
exponent; the digits before the point and one more must fit a signed 64-bit word. -/
def momentOfDigits? (cs : List Char) : Option Moment := do
  let (negative, rest) := splitSign cs
  let (ds, rest) := spanDigits rest
  let size := digitRun ds
  match rest with
  | [] =>
    guard (!ds.isEmpty)
    momentOfNumber? (if negative then -(size : Int) else size) 0
  | '.' :: _ =>
    guard (fitsWord (10 * size))
    momentOfFloat? (← decimal? cs).toFloat
  | _ => none

/-! ## Days -/

/-- The day that a moment at midnight begins. -/
def Moment.toDay (m : Moment) : Checked Date :=
  if m.time ≠ 0 then problem .notMidnight
  else
    match m.day with
    | some d => ok d
    | none => problem .yearZero

/-- The day of a moment, when there is one. -/
def dayOf? : Option Moment → Checked Date
  | some m => m.toDay
  | none => problem .dateText

/-- Reads a day. -/
def readDay : Reader Date
  | .text s => let cs := s.toList; dayOf? (momentOfText? cs <|> momentOfDigits? cs)
  | .int n => if (ofInt n).isInf then problem .notDate else dayOf? (momentOfNumber? n 0)
  | .float x => dayOf? (momentOfFloat? x)
  | .brokenText _ => problem .brokenText
  | _ => problem .notDate

end ActivityReport.Payload
