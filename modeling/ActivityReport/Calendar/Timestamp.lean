import ActivityReport.Calendar.Text

/-!
# Timestamps

A `Timestamp` is a moment: a day, the time of day, and the distance of its clock from universal time where
that is known. `ofText` reads the forms of ISO 8601 that databases write, byte by byte: it takes the whole
spelling apart before it looks at what the numbers in it mean. `toText` writes a moment with a blank before
the time. Two moments have an order when both clocks have a known distance or neither has; known distances
are taken off first.
-/

namespace ActivityReport

/-- The number of microseconds of a day. -/
def microsecondsPerDay : Nat := 86400000000

/-- A moment: a day, the microseconds that have passed on it, and how many microseconds its clock is ahead
of universal time, where that is known. -/
structure Timestamp where
  day : Date
  clock : Nat
  offset : Option Int
  deriving DecidableEq, Repr

/-- A time of day, or a length of time below a day. -/
structure ClockTime where
  hour : Nat
  minute : Nat
  second : Nat
  microsecond : Nat
  deriving DecidableEq, Repr

namespace ClockTime

open Text

/-- The number of whole seconds. -/
def seconds (t : ClockTime) : Nat := (t.hour * 60 + t.minute) * 60 + t.second

/-- The number of microseconds. -/
def microseconds (t : ClockTime) : Nat := t.seconds * 1000000 + t.microsecond

/-- A number of microseconds in hours, minutes, seconds and microseconds. -/
def ofMicroseconds (n : Nat) : ClockTime :=
  ⟨n / 3600000000, n / 60000000 % 60, n / 1000000 % 60, n % 1000000⟩

/-- Whether nothing is left of a text; a null byte ends it too. -/
def isEnd (cs : List Char) : Bool := cs.head?.all (· == '\x00')

/-- Reads a fraction of a second in microseconds, and what follows it: up to six digits, which must fill the
text when they are fewer, and more digits that do not count. -/
def readFraction (cs : List Char) : Option (Nat × List Char) := do
  let size := min 6 cs.length
  let (n, rest) ← Date.readDigits size cs
  return (n * Nat.pow 10 (6 - size), rest.dropWhile isAsciiDigit)

/-- Reads hours, minutes and seconds as far as they are there, each with two digits, and a fraction of the
last of them; colons stand between all of them or none. With the time it is told whether the text ends
with it: one byte too many is left, and after a fraction any number of them. -/
def read (cs : List Char) : Option (ClockTime × Bool) := do
  let (hour, rest) ← Date.readDigits 2 cs
  let colons := rest.head? == some ':'
  if rest.length < 2 then return (⟨hour, 0, 0, 0⟩, isEnd rest)
  if !colons && isFractionMark rest then fraction ⟨hour, 0, 0, 0⟩ (rest.drop 1)
  else
    let (minute, rest) ← Date.readDigits 2 (if colons then rest.drop 1 else rest)
    if rest.length < 2 then return (⟨hour, minute, 0, 0⟩, isEnd rest)
    if isFractionMark rest then fraction ⟨hour, minute, 0, 0⟩ (rest.drop 1)
    else if colons && rest.head? != some ':' then none
    else
      let (second, rest) ← Date.readDigits 2 (if colons then rest.drop 1 else rest)
      if rest.length < 2 then return (⟨hour, minute, second, 0⟩, isEnd rest)
      if isFractionMark rest || colons && rest.head? == some ':' then
        fraction ⟨hour, minute, second, 0⟩ (rest.drop 1)
      else if colons then none
      else fraction ⟨hour, minute, second, 0⟩ rest
where
  /-- Whether a fraction follows. -/
  isFractionMark (cs : List Char) : Bool := cs.head? == some '.' || cs.head? == some ','
  /-- A time with the fraction at the head of a text. -/
  fraction (t : ClockTime) (cs : List Char) : Option (ClockTime × Bool) := do
    let (n, rest) ← readFraction cs
    return ({ t with microsecond := n }, isEnd rest)

/-- Hours and minutes, with seconds when there are any or when asked for, and with microseconds when there
are any. -/
def toText (withSeconds : Bool) (t : ClockTime) : String :=
  s!"{Date.padded 2 t.hour}:{Date.padded 2 t.minute}" ++
    (if withSeconds || t.second != 0 || t.microsecond != 0 then s!":{Date.padded 2 t.second}" else "") ++
    (if t.microsecond != 0 then s!".{Date.padded 6 t.microsecond}" else "")

end ClockTime

namespace Timestamp

open Text

/-- A length of time as the call that makes it. -/
def spanLiteral (microseconds : Int) : String :=
  let day : Int := microsecondsPerDay
  let parts := [("days", microseconds.fdiv day), ("seconds", microseconds.fmod day / 1000000),
    ("microseconds", microseconds.fmod 1000000)].filter (·.2 != 0)
  let fields := if parts.isEmpty then ["0"] else parts.map fun (name, n) => s!"{name}={n}"
  "datetime.timedelta(" ++ ", ".intercalate fields ++ ")"

/-! ## In text -/

/-- The length of the day at the head of a timestamp. A week date may lack its weekday; then a time without
a mark before it has an even number of digits, and one after a dash has two digits at least. -/
def dayLength (cs : List Char) : Nat :=
  let isDigitAt (i : Nat) : Bool := cs[i]?.any isAsciiDigit
  if cs.length = 7 then 7
  else if cs[4]? == some '-' then
    if cs[5]? != some 'W' then 10
    else if cs[8]? == some '-' && !isDigitAt 10 then 10
    else 8
  else if cs[4]? == some 'W' then
    let digits := ((cs.drop 7).takeWhile isAsciiDigit).length
    if digits < 2 then 7 + digits else if digits % 2 = 1 then 7 else 8
  else 8

/-- Reads how far a clock is ahead of universal time, with its sign; less than a second counts only beside
whole seconds. -/
def readOffset : List Char → Option Int
  | 'Z' :: rest => if ClockTime.isEnd rest then some 0 else none
  | c :: rest => do
    let (t, ended) ← ClockTime.read rest
    guard ended
    return if t.seconds = 0 then 0 else if c == '-' then -(t.microseconds : Int) else t.microseconds
  | [] => none

/-- Whether a character begins the distance from universal time. -/
def isOffsetMark (c : Char) : Bool := c == '+' || c == '-' || c == 'Z'

/-- Reads a time of day and the distance from universal time; what is left of the time is passed over when a
distance follows. -/
def readTime (cs : List Char) : Option (ClockTime × Option Int) := do
  let (t, ended) ← ClockTime.read (cs.takeWhile fun c => !isOffsetMark c)
  match cs.dropWhile fun c => !isOffsetMark c with
  | [] => do
    guard ended
    return (t, none)
  | zone => return (t, some (← readOffset zone))

/-- A moment as it is spelled; its numbers may name none. -/
structure Spelling where
  day : Date.Spelling
  clock : ClockTime
  offset : Option Int
  deriving DecidableEq, Repr

/-- The bytes of a text, each as a character of its own. -/
def bytes (s : String) : List Char :=
  (s.toList.flatMap String.utf8EncodeChar).map fun b => Char.ofNat b.toNat

/-- The number of bytes of a character, by the first of them. -/
def byteCount (first : Char) : Nat :=
  if first.toNat < 0x80 then 1
  else
    match first.toNat / 16 with
    | 0xE => 3
    | 0xF => 4
    | _ => 2

/-- Reads the spelling of a timestamp: a day, and after one character of any kind a time of day. -/
def read (s : String) : Option Spelling := do
  let cs := bytes s
  let day ← Date.readIso (String.ofList (cs.take (dayLength cs)))
  match cs.drop (dayLength cs) with
  | [] => return ⟨day, ⟨0, 0, 0, 0⟩, none⟩
  | separator :: rest => do
    let (clock, offset) ← readTime (rest.drop (byteCount separator - 1))
    return ⟨day, clock, offset⟩

/-- Why a text names no moment. -/
inductive TextFault where
  | malformed (s : String)
  /-- The clock is a day or more away from universal time. -/
  | offset (microseconds : Int)
  | day (f : Date.FieldFault)
  | hour
  | minute
  | second
  deriving Repr, DecidableEq

/-- The fault in words. -/
def TextFault.message : TextFault → String
  | .malformed s => (Date.TextFault.malformed s).message
  | .offset o =>
    "offset must be a timedelta strictly between -timedelta(hours=24) and timedelta(hours=24), " ++
      s!"not {spanLiteral o}."
  | .day f => f.message
  | .hour => "hour must be in 0..23"
  | .minute => "minute must be in 0..59"
  | .second => "second must be in 0..59"

/-- The moment that is spelled. The distance from universal time is checked first, then the day, then the
time of day. -/
def Spelling.toTimestamp (x : Spelling) : Except TextFault Timestamp := do
  if let some o := x.offset then
    if microsecondsPerDay ≤ o.natAbs then throw (.offset o)
  let day ← x.day.toDate.mapError .day
  if 23 < x.clock.hour then throw .hour
  if 59 < x.clock.minute then throw .minute
  if 59 < x.clock.second then throw .second
  return ⟨day, x.clock.microseconds, x.offset⟩

/-- The moment that a text names. -/
def ofText (s : String) : Except TextFault Timestamp :=
  match read s with
  | some spelling => spelling.toTimestamp
  | none => .error (.malformed s)

/-- The distance from universal time as it is written. -/
def offsetText (offset : Int) : String :=
  (if offset < 0 then "-" else "+") ++ (ClockTime.ofMicroseconds offset.natAbs).toText false

/-- A timestamp as it is written. -/
def toText (t : Timestamp) : String :=
  s!"{t.day.toIso} {(ClockTime.ofMicroseconds t.clock).toText true}" ++ (t.offset.elim "" offsetText)

/-- The microseconds of universal time that have passed; a clock of unknown distance is taken as it is. -/
def instant (t : Timestamp) : Int := t.day.ordinal * microsecondsPerDay + t.clock - t.offset.getD 0

/-- The order of two timestamps. -/
def compare (a b : Timestamp) : Ordering := Ord.compare a.instant b.instant

/-- Whether two timestamps have an order. -/
def isComparable (a b : Timestamp) : Bool := a.offset.isSome == b.offset.isSome

/-! ## As a literal -/

/-- A distance from universal time as the call that makes it. -/
def offsetLiteral (offset : Int) : String :=
  if offset = 0 then "datetime.timezone.utc" else s!"datetime.timezone({spanLiteral offset})"

/-- A timestamp as the call that makes it; seconds are left out when nothing smaller follows. -/
def literal (t : Timestamp) : String :=
  let c := ClockTime.ofMicroseconds t.clock
  let fine := if c.microsecond != 0 then [c.second, c.microsecond] else if c.second != 0 then [c.second] else []
  let fields := ([t.day.year, t.day.month, t.day.day, c.hour, c.minute] ++ fine).map toString
  let zone := t.offset.toList.map fun o => "tzinfo=" ++ offsetLiteral o
  "datetime.datetime(" ++ ", ".intercalate (fields ++ zone) ++ ")"

end Timestamp

end ActivityReport
