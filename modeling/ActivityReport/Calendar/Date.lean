/-!
# Days of the calendar

A `Date` is a day of the proleptic Gregorian calendar from 1 January of year 1 to 31 December of year
9999, held as its ordinal: the number of days since the day before the first. Order and distance of
days are those of their ordinals; year, month and day are worked out when a day is written.
-/

namespace ActivityReport

/-- The ordinal of the last day, 31 December 9999. -/
def Date.lastOrdinal : Nat := 3652059

/-- A day between 1 January of year 1 and 31 December of year 9999. -/
@[ext] structure Date where
  ordinal : Nat
  one_le : 1 ≤ ordinal := by omega
  le_last : ordinal ≤ Date.lastOrdinal := by omega
  deriving DecidableEq, Repr

namespace Date

instance : LE Date := ⟨fun a b => a.ordinal ≤ b.ordinal⟩
instance : LT Date := ⟨fun a b => a.ordinal < b.ordinal⟩
instance (a b : Date) : Decidable (a ≤ b) := inferInstanceAs (Decidable (a.ordinal ≤ b.ordinal))
instance (a b : Date) : Decidable (a < b) := inferInstanceAs (Decidable (a.ordinal < b.ordinal))
instance : Inhabited Date := ⟨⟨1, by decide, by decide⟩⟩

theorem le_def {a b : Date} : a ≤ b ↔ a.ordinal ≤ b.ordinal := Iff.rfl

theorem lt_def {a b : Date} : a < b ↔ a.ordinal < b.ordinal := Iff.rfl

/-- The day with an ordinal, when there is one. -/
def ofOrdinal? (n : Int) : Option Date :=
  if h : 1 ≤ n ∧ n ≤ lastOrdinal then some ⟨n.toNat, by omega, by omega⟩ else none

/-- The day `n` days later (earlier when `n` is negative), inside the calendar. -/
def addDays? (d : Date) (n : Int) : Option Date := ofOrdinal? (d.ordinal + n)

/-- The number of days from one day to another. -/
def daysUntil (first last : Date) : Int := (last.ordinal : Int) - first.ordinal

/-! ## Years, months and days -/

/-- Whether a year has 366 days. -/
def isLeapYear (y : Nat) : Bool := y % 4 == 0 && (y % 100 != 0 || y % 400 == 0)

/-- The lengths of the months of a year. -/
def monthLengths (y : Nat) : List Nat :=
  [31, if isLeapYear y then 29 else 28, 31, 30, 31, 30, 31, 31, 30, 31, 30, 31]

/-- The length of a month, numbered from 1. -/
def daysInMonth (y m : Nat) : Nat := (monthLengths y).getD (m - 1) 0

/-- The number of days in the years before a year. -/
def daysBeforeYear (y : Nat) : Nat :=
  let p := y - 1
  p * 365 + p / 4 - p / 100 + p / 400

/-- The number of days of a year before a month, numbered from 1. -/
def daysBeforeMonth (y m : Nat) : Nat := ((monthLengths y).take (m - 1)).foldl (· + ·) 0

/-- Whether year, month and day name a day of the calendar. -/
def isValid (y m d : Nat) : Bool :=
  1 ≤ y && y ≤ 9999 && 1 ≤ m && m ≤ 12 && 1 ≤ d && d ≤ daysInMonth y m

/-- The day with a year, month and day, when there is one. -/
def ofYmd? (y m d : Nat) : Option Date :=
  if isValid y m d then ofOrdinal? (daysBeforeYear y + daysBeforeMonth y m + d) else none

/-- The month and the day of the month of a day of the year, counted from 0. -/
def splitMonths (m n : Nat) : List Nat → Nat × Nat
  | [] => (m, n + 1)
  | length :: rest => if n < length then (m, n + 1) else splitMonths (m + 1) (n - length) rest

/-- The year, month and day of a day. -/
def toYmd (d : Date) : Nat × Nat × Nat :=
  let n := d.ordinal - 1
  let n400 := n / 146097
  let r400 := n % 146097
  let n100 := r400 / 36524
  let r100 := r400 % 36524
  let n4 := r100 / 1461
  let r4 := r100 % 1461
  let n1 := r4 / 365
  let y := n400 * 400 + n100 * 100 + n4 * 4 + n1 + 1
  if n1 = 4 ∨ n100 = 4 then (y - 1, 12, 31)
  else (y, splitMonths 1 (r4 % 365) (monthLengths y))

/-- The year of a day. -/
def year (d : Date) : Nat := d.toYmd.1

/-- The month of a day, from 1. -/
def month (d : Date) : Nat := d.toYmd.2.1

/-- The day of the month, from 1. -/
def day (d : Date) : Nat := d.toYmd.2.2

/-- The weekday of an ordinal, from 0 for Monday to 6 for Sunday. -/
def weekday (ordinal : Nat) : Nat := (ordinal + 6) % 7

/-! ## Never -/

/-- The day that stands for "never" where the latest day wins, 1 January 1900. -/
def neverBefore : Date := ⟨693596, by decide, by decide⟩

/-- The day that stands for "never" where the earliest day wins, 1 January 2100. -/
def neverAfter : Date := ⟨766645, by decide, by decide⟩

/-- Whether a day stands for "never". -/
def isNever (d : Date) : Bool := d == neverBefore || d == neverAfter

example : neverBefore.toYmd = (1900, 1, 1) ∧ neverAfter.toYmd = (2100, 1, 1) := by decide

/-! ## Lemmas -/

theorem ofOrdinal?_eq_some_iff {n : Int} {d : Date} : ofOrdinal? n = some d ↔ (d.ordinal : Int) = n := by
  unfold ofOrdinal?
  constructor
  · intro h
    split at h
    · cases h
      simp only
      omega
    · cases h
  · intro h
    have low := d.one_le
    have high := d.le_last
    rw [dif_pos (by omega)]
    exact congrArg some (Date.ext (by simp only; omega))

theorem ofOrdinal?_eq_none_iff {n : Int} : ofOrdinal? n = none ↔ n < 1 ∨ (lastOrdinal : Int) < n := by
  unfold ofOrdinal?
  split <;> simp <;> omega

/-- A day is reached by a step of `n` days exactly when it lies `n` days later. -/
theorem addDays?_eq_some_iff {d e : Date} {n : Int} :
    d.addDays? n = some e ↔ (e.ordinal : Int) = d.ordinal + n :=
  ofOrdinal?_eq_some_iff

/-- Two days with one ordinal are the same day. -/
theorem ordinal_injective {a b : Date} (h : a.ordinal = b.ordinal) : a = b := by
  cases a
  cases b
  simp_all

theorem le_refl (a : Date) : a ≤ a := Nat.le_refl _

theorem le_trans {a b c : Date} (h : a ≤ b) (k : b ≤ c) : a ≤ c := Nat.le_trans h k

theorem le_antisymm {a b : Date} (h : a ≤ b) (k : b ≤ a) : a = b := ordinal_injective (Nat.le_antisymm h k)

theorem le_total (a b : Date) : a ≤ b ∨ b ≤ a := Nat.le_total ..

theorem not_le {a b : Date} : ¬ a ≤ b ↔ b < a := Nat.not_le

example : (ofYmd? 2024 2 29).map toYmd = some (2024, 2, 29) ∧ ofYmd? 2023 2 29 = none := by decide

end Date

end ActivityReport
