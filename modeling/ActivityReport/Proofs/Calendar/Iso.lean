import ActivityReport.Payload.Dump
import ActivityReport.Proofs.Calendar.Key

/-!
# Days written and read

A day is written by its year, its month and its day of the month, and these name it (`Date.ofYmd?_toYmd`). The
numbers have as many digits as are read back, so that a day that was written is read as itself
(`Payload.readDay_writeDay`).
-/

namespace ActivityReport

open Text (digitsValue isAsciiDigit)

namespace Date

/-! ## Years, months and days -/

/-- A place in a year lies in one of the months, after those before it. -/
lemma splitMonths_eq {lengths : List Nat} {m n : Nat} (h : n < lengths.sum) :
    ∃ i < lengths.length, (lengths.take i).sum ≤ n ∧ n < (lengths.take i).sum + lengths.getD i 0 ∧
      splitMonths m n lengths = (m + i, n - (lengths.take i).sum + 1) := by
  induction lengths generalizing m n with
  | nil => simp at h
  | cons length rest ih =>
    rw [List.sum_cons] at h
    rw [splitMonths]
    split
    · rename_i first
      exact ⟨0, Nat.zero_lt_succ _, Nat.zero_le _, by simpa using first, by simp⟩
    · obtain ⟨i, within, low, high, split⟩ := ih (m := m + 1) (n := n - length) (by omega)
      refine ⟨i + 1, Nat.succ_lt_succ within, ?_⟩
      rw [List.take_succ_cons, List.sum_cons, List.getD_cons_succ, split]
      refine ⟨by omega, by omega, ?_⟩
      rw [Nat.add_assoc, Nat.add_comm 1 i, Nat.sub_sub]

/-- Years are counted from 1. -/
lemma one_le_year (d : Date) : 1 ≤ d.year := by
  unfold year toYmd
  dsimp only
  split
  · dsimp only
    omega
  · exact Nat.le_add_left _ _

/-- Year, month and day of the month of a day name it. -/
theorem ofYmd?_toYmd (d : Date) : ofYmd? d.year d.month d.day = some d := by
  obtain ⟨n, within, ordinal, place⟩ := d.exists_place
  obtain ⟨i, months, low, high, split⟩ := splitMonths_eq (m := 1) within
  rw [split] at place
  have month : d.month = 1 + i := congrArg Prod.fst place
  have day : d.day = n - ((monthLengths d.year).take i).sum + 1 := congrArg Prod.snd place
  have twelve : (monthLengths d.year).length = 12 := rfl
  have length : daysInMonth d.year d.month = (monthLengths d.year).getD i 0 := by
    rw [daysInMonth, month, Nat.add_sub_cancel_left]
  have before : daysBeforeMonth d.year d.month = ((monthLengths d.year).take i).sum := by
    rw [daysBeforeMonth, month, Nat.add_sub_cancel_left, List.sum_eq_foldl]
  have valid : isValid d.year d.month d.day = true := by
    have := d.one_le_year
    have := d.year_le
    simp only [isValid, Bool.and_eq_true, decide_eq_true_eq, length]
    omega
  have total : d.ordinal = daysBeforeYear d.year + daysBeforeMonth d.year d.month + d.day := by
    rw [before, day]
    omega
  rw [ofYmd?, if_pos valid, ofOrdinal?_eq_some_iff, total]
  push_cast
  rfl

/-! ## Digits -/

/-- What is read from the digits of a number is the number. -/
lemma digitsValue_padded (width n : Nat) :
    digitsValue ((padded width n).toList.map fun c => c.toNat - '0'.toNat) = n := by
  rw [digitsValue, List.foldl_map]
  exact ofDigitChars_padded width n

/-- A number is written in ASCII digits. -/
lemma isAsciiDigit_of_mem_padded {width n : Nat} {c : Char} (h : c ∈ (padded width n).toList) :
    isAsciiDigit c = true := by
  rw [padded, String.toList_ofList, List.mem_append] at h
  rcases h with zero | digit
  · rw [List.eq_of_mem_replicate zero]
    rfl
  · obtain ⟨k, below, rfl⟩ := exists_of_mem_toDigits (by decide) digit
    have ascii : ∀ k < 10, isAsciiDigit (Nat.digitChar k) = true := by decide
    exact ascii k below

/-- A number is read back from in front of what follows it. -/
lemma readDigits_padded {width n : Nat} (fits : (padded width n).toList.length = width) (rest : List Char) :
    readDigits width ((padded width n).toList ++ rest) = some (n, rest) := by
  have digits : (padded width n).toList.all isAsciiDigit = true :=
    List.all_eq_true.2 fun c listed => isAsciiDigit_of_mem_padded listed
  have taken : ((padded width n).toList ++ rest).take width = (padded width n).toList := List.take_left' fits
  rw [readDigits, taken, if_pos ⟨fits, digits⟩, digitsValue_padded, List.drop_left' fits]

lemma toList_toIso (d : Date) : d.toIso.toList =
    (padded 4 d.year).toList ++ '-' :: ((padded 2 d.month).toList ++ '-' :: (padded 2 d.day).toList) := by
  show (padded 4 d.year ++ "-" ++ padded 2 d.month ++ "-" ++ padded 2 d.day).toList = _
  simp [String.toList_append]

end Date

namespace Payload

open Date (padded)

/-- A day that was written stands at the head of its text, and nothing follows it. -/
lemma dayHead?_toIso (d : Date) : dayHead? d.toIso.toList = some ((d.year, d.month, d.day), []) := by
  have valid : Date.isValid d.year d.month d.day = true := by
    have named := d.ofYmd?_toYmd
    unfold Date.ofYmd? at named
    split at named
    · assumption
    · cases named
  simp only [Date.isValid, Bool.and_eq_true, decide_eq_true_eq] at valid
  obtain ⟨month, day⟩ := d.month_le_day_le
  have four : (padded 4 d.year).toList.length = 4 :=
    Date.length_padded_of_lt (by decide) (Nat.lt_succ_of_le d.year_le)
  have year := Date.readDigits_padded four
  have months := Date.readDigits_padded (Date.length_padded (n := d.month) (by omega))
  have days := Date.readDigits_padded (Date.length_padded (n := d.day) (by omega)) []
  rw [List.append_nil] at days
  simp [Date.toList_toIso, dayHead?, twoDigits, expect, year, months, days, valid]

/-- A day that was written is read as itself. -/
theorem readDay_writeDay (d : Date) : readDay (writeDay d) = .ok d := by
  have moment : momentOfText? d.toIso.toList = some ⟨some d, 0⟩ := by
    rw [momentOfText?, dayHead?_toIso, ← d.ofYmd?_toYmd]
    rfl
  unfold readDay writeDay
  simp only [moment]
  rfl

end Payload

end ActivityReport
