import ActivityReport.Calendar.Date

/-!
# Windows and epochs

A report looks at a window of days: it always has a last day, and it may have a first one. A
requirement may be measured at another day than the last, named by an `Epoch` relative to the window.
`Window.resolve` finds that day and `Window.bounds` the days of a period that ends there; both fail
when a day falls outside the calendar or a number of days is too large to be a time span.
-/

namespace ActivityReport

/-- The day at which a requirement is measured, relative to the window. -/
inductive Epoch where
  /-- So many days after the last day. -/
  | offset (days : Int)
  /-- The day before the first day. -/
  | startOfPeriod
  deriving DecidableEq, Repr

/-- Why a day cannot be worked out. -/
inductive DayFault where
  /-- The day lies outside the calendar. -/
  | outOfRange
  /-- The number of days exceeds the longest time span. -/
  | spanTooLong (days : Int)
  /-- The number of days exceeds a signed 32-bit word. -/
  | wordOverflow
  deriving DecidableEq, Repr

/-- The fault in words. -/
def DayFault.message : DayFault → String
  | .outOfRange => "date value out of range"
  | .spanTooLong n => s!"days={n}; must have magnitude <= 999999999"
  | .wordOverflow => "Python int too large to convert to C int"

/-- Checks that a number of days is a time span. -/
def checkSpan (n : Int) : Except DayFault Unit :=
  if n < -2147483648 ∨ 2147483647 < n then .error .wordOverflow
  else if n < -999999999 ∨ 999999999 < n then .error (.spanTooLong n)
  else .ok ()

/-- The day `n` days later. -/
def Date.later (d : Date) (n : Int) : Except DayFault Date := do
  checkSpan n
  match d.addDays? n with
  | some e => .ok e
  | none => .error .outOfRange

/-- The day `n` days earlier. -/
def Date.earlier (d : Date) (n : Int) : Except DayFault Date := do
  checkSpan n
  match d.addDays? (-n) with
  | some e => .ok e
  | none => .error .outOfRange

/-- The days a report is about. -/
structure Window where
  start : Option Date
  finish : Date
  deriving DecidableEq, Repr

namespace Window

/-- The day that an epoch names; the start of a window without a first day names none. -/
def resolve (w : Window) : Option Epoch → Except DayFault (Option Date)
  | none => .ok (some w.finish)
  | some .startOfPeriod =>
    match w.start with
    | none => .ok none
    | some first => some <$> first.earlier 1
  | some (.offset n) => some <$> w.finish.later n

/-- The day `period` days before the epoch, and the epoch. -/
def bounds (w : Window) (period : Int) (epoch : Option Epoch) : Except DayFault (Option (Date × Date)) := do
  match ← w.resolve epoch with
  | none => return none
  | some last => return some (← last.earlier period, last)

end Window

end ActivityReport
