import ActivityReport.Calendar.Text
import Mathlib

/-!
# Days in names

The digits in which a day stands in a name tell the day. Year, month and day of the month determine the
ordinal (`Date.toYmd_injective`); month and day of the month take two digits each, so what goes before the
last four digits is the year (`Date.key_injective`).
-/

namespace ActivityReport

/-! ## Digits -/

/-- Digits are those of the base. -/
lemma exists_of_mem_toDigits {b n : Nat} {c : Char} (hb : 1 < b) (h : c ∈ Nat.toDigits b n) :
    ∃ k < b, c = Nat.digitChar k := by
  induction n using Nat.strongRecOn with
  | ind n ih =>
    rw [Nat.toDigits_eq_if hb] at h
    split at h
    · exact ⟨n, ‹_›, List.mem_singleton.1 h⟩
    · rcases List.mem_append.1 h with high | low
      · exact ih _ (Nat.div_lt_self (by omega) hb) high
      · exact ⟨n % b, Nat.mod_lt _ (by omega), List.mem_singleton.1 low⟩

/-- Hexadecimal digits tell their values. -/
lemma digitChar_inj {m n : Nat} (hm : m < 16) (hn : n < 16) (h : Nat.digitChar m = Nat.digitChar n) :
    m = n := by
  have apart : ∀ m < 16, ∀ n < 16, Nat.digitChar m = Nat.digitChar n → m = n := by decide
  exact apart m hm n hn h

/-- Two numbers with the same digits are equal. -/
lemma toDigits_inj {b m n : Nat} (hb : 1 < b) (small : b ≤ 16) (h : Nat.toDigits b m = Nat.toDigits b n) :
    m = n := by
  induction m using Nat.strongRecOn generalizing n with
  | ind m ih =>
    rw [Nat.toDigits_eq_if hb, Nat.toDigits_eq_if (n := n) hb] at h
    have tail : ∀ (k : Nat) (c d : Char), [c] ≠ Nat.toDigits b k ++ [d] := by
      intro k c d eq
      have lengths := congrArg List.length eq
      have := Nat.length_toDigits_pos (b := b) (n := k)
      simp only [List.length_singleton, List.length_append] at lengths
      omega
    split at h
    · split at h
      · exact digitChar_inj (by omega) (by omega) (List.singleton_inj.1 h)
      · exact absurd h (tail _ _ _)
    · split at h
      · exact absurd h.symm (tail _ _ _)
      · obtain ⟨high, low⟩ := List.append_inj' h rfl
        have quotient := ih (m / b) (Nat.div_lt_self (by omega) hb) high
        have remainder := digitChar_inj (by have := Nat.mod_lt m (by omega : b > 0); omega)
          (by have := Nat.mod_lt n (by omega : b > 0); omega) (List.singleton_inj.1 low)
        rw [← Nat.div_add_mod m b, ← Nat.div_add_mod n b, quotient, remainder]

/-- No digit is an underscore. -/
lemma underscore_not_mem_toDigits {b n : Nat} (hb : 1 < b) (small : b ≤ 16) : '_' ∉ Nat.toDigits b n := by
  intro h
  obtain ⟨k, below, eq⟩ := exists_of_mem_toDigits hb h
  have apart : ∀ k < 16, '_' ≠ Nat.digitChar k := by decide
  exact apart k (by omega) eq

namespace Date

/-! ## Years, months and days -/

/-- The days before the first of so many centuries, years of four and years. -/
lemma daysBeforeYear_eq {a b c e : Nat} (hb : b ≤ 3) (hc : c ≤ 24) (he : e ≤ 3) :
    daysBeforeYear (a * 400 + b * 100 + c * 4 + e + 1) = a * 146097 + b * 36524 + c * 1461 + e * 365 := by
  have fours : (a * 400 + b * 100 + c * 4 + e) / 4 = a * 100 + b * 25 + c := by omega
  have hundreds : (a * 400 + b * 100 + c * 4 + e) / 100 = a * 4 + b := by omega
  have fourHundreds : (a * 400 + b * 100 + c * 4 + e) / 400 = a := by omega
  simp only [daysBeforeYear, Nat.add_sub_cancel, fours, hundreds, fourHundreds]
  omega

/-- The months of a year have 365 or 366 days. -/
lemma sum_monthLengths (y : Nat) : (monthLengths y).sum = if isLeapYear y then 366 else 365 := by
  unfold monthLengths
  split <;> rfl

/-- Year, month and day of a day come from its place in its year. -/
lemma exists_place (d : Date) : ∃ n < (monthLengths d.year).sum,
    d.ordinal = daysBeforeYear d.year + n + 1 ∧ d.toYmd.2 = splitMonths 1 n (monthLengths d.year) := by
  obtain ⟨n, ordinal⟩ : ∃ n, d.ordinal = n + 1 := ⟨d.ordinal - 1, by have := d.one_le; omega⟩
  unfold year toYmd
  rw [ordinal, Nat.add_sub_cancel]
  dsimp only
  have whole : n = n / 146097 * 146097 + n % 146097 / 36524 * 36524 +
      n % 146097 % 36524 / 1461 * 1461 + n % 146097 % 36524 % 1461 / 365 * 365 +
      n % 146097 % 36524 % 1461 % 365 := by omega
  have cents : n % 146097 / 36524 < 4 ∨ n % 146097 / 36524 = 4 ∧ n % 146097 % 36524 / 1461 = 0 ∧
      n % 146097 % 36524 % 1461 / 365 = 0 ∧ n % 146097 % 36524 % 1461 % 365 = 0 := by omega
  have fours : n % 146097 % 36524 / 1461 < 24 ∨ n % 146097 % 36524 / 1461 = 24 ∧
      n % 146097 % 36524 % 1461 / 365 < 4 := by omega
  have years : n % 146097 % 36524 % 1461 / 365 < 4 ∨ n % 146097 % 36524 % 1461 / 365 = 4 ∧
      n % 146097 % 36524 % 1461 % 365 = 0 := by omega
  have within : n % 146097 % 36524 % 1461 % 365 < 365 := Nat.mod_lt _ (by decide)
  generalize n / 146097 = a at *
  generalize n % 146097 / 36524 = b at *
  generalize n % 146097 % 36524 / 1461 = c at *
  generalize n % 146097 % 36524 % 1461 / 365 = e at *
  generalize n % 146097 % 36524 % 1461 % 365 = r at *
  split
  · rename_i last
    -- the last day of a leap year is the one that the cycles count beyond its year
    obtain ⟨b', c', hb, hc, year, place, leap⟩ : ∃ b' c', b' ≤ 3 ∧ c' ≤ 24 ∧
        a * 400 + b * 100 + c * 4 + e + 1 - 1 = a * 400 + b' * 100 + c' * 4 + 3 + 1 ∧
        n = a * 146097 + b' * 36524 + c' * 1461 + 1460 ∧ (c' = 24 → b' = 3) := by
      rcases cents with fewer | ⟨rfl, rfl, rfl, rfl⟩
      · obtain ⟨rfl, rfl⟩ : e = 4 ∧ r = 0 := by omega
        exact ⟨b, c, by omega, by omega, by omega, by omega, by omega⟩
      · exact ⟨3, 24, by omega, by omega, by omega, by
          simp only [whole, Nat.reduceMul, Nat.reduceAdd, Nat.add_assoc], by omega⟩
    have isLeap : isLeapYear (a * 400 + b' * 100 + c' * 4 + 3 + 1) = true := by
      simp only [isLeapYear, Bool.and_eq_true, Bool.or_eq_true, beq_iff_eq, bne_iff_ne]
      omega
    rw [year]
    refine ⟨365, ?_, ?_, ?_⟩
    · rw [sum_monthLengths, isLeap]
      decide
    · rw [daysBeforeYear_eq hb hc (by decide)]
      omega
    · rw [monthLengths, isLeap]
      rfl
  · rename_i inside
    refine ⟨r, ?_, ?_, rfl⟩
    · rw [sum_monthLengths]
      split <;> omega
    · rw [daysBeforeYear_eq (by omega) (by omega) (by omega)]
      omega

/-- A year has four digits at most. -/
lemma year_le (d : Date) : d.year ≤ 9999 := by
  have low := d.one_le
  have high : d.ordinal ≤ 3652059 := d.le_last
  unfold year toYmd
  dsimp only
  split <;> dsimp only <;> omega

/-- A place in a year tells its month and its day, and they tell it. -/
lemma splitMonths_inj {lengths : List Nat} {m a b : Nat}
    (h : splitMonths m a lengths = splitMonths m b lengths) : a = b := by
  induction lengths generalizing m a b with
  | nil => simpa [splitMonths] using h
  | cons length rest ih =>
    have later : ∀ n, m + 1 ≤ (splitMonths (m + 1) n rest).1 := by
      intro n
      clear ih h
      induction rest generalizing m n with
      | nil => exact Nat.le_refl _
      | cons l rest ih =>
        rw [splitMonths]
        split
        · exact Nat.le_refl _
        · exact Nat.le_of_succ_le (ih (m := m + 1) _)
    rw [splitMonths, splitMonths] at h
    split at h
    · split at h
      · simpa using h
      · have := later (b - length)
        rw [← h] at this
        omega
    · split at h
      · have := later (a - length)
        rw [h] at this
        omega
      · have := ih h
        omega

/-- Months are numbered on and days stay within their month. -/
lemma splitMonths_le {lengths : List Nat} {m n : Nat} (h : n < lengths.sum) :
    (splitMonths m n lengths).1 < m + lengths.length ∧
      ∃ l ∈ lengths, (splitMonths m n lengths).2 ≤ l := by
  induction lengths generalizing m n with
  | nil => simp at h
  | cons length rest ih =>
    rw [List.sum_cons] at h
    rw [splitMonths]
    split
    · exact ⟨by simp, length, List.mem_cons_self, by omega⟩
    · obtain ⟨month, l, listed, day⟩ := ih (m := m + 1) (n := n - length) (by omega)
      refine ⟨?_, l, List.mem_cons_of_mem _ listed, day⟩
      rw [List.length_cons]
      omega

/-- There are twelve months, and none has more than 31 days. -/
lemma month_le_day_le (d : Date) : d.month ≤ 12 ∧ d.day ≤ 31 := by
  obtain ⟨n, within, -, split⟩ := d.exists_place
  obtain ⟨month, l, listed, day⟩ := splitMonths_le (m := 1) within
  have longest : ∀ l ∈ monthLengths d.year, l ≤ 31 := by
    unfold monthLengths
    split <;> decide
  rw [← split] at month day
  exact ⟨Nat.le_of_lt_succ month, Nat.le_trans day (longest l listed)⟩

/-- Year, month and day of the month tell a day. -/
theorem toYmd_injective {a b : Date} (h : a.toYmd = b.toYmd) : a = b := by
  obtain ⟨m, -, ordinal, place⟩ := a.exists_place
  obtain ⟨n, -, ordinal', place'⟩ := b.exists_place
  have year : a.year = b.year := congrArg Prod.fst h
  have split : splitMonths 1 m (monthLengths b.year) = splitMonths 1 n (monthLengths b.year) := by
    rw [← place', ← h, place, year]
  exact ordinal_injective (by rw [ordinal, ordinal', year, splitMonths_inj split])

/-! ## Keys -/

/-- A number with no more digits than the width is written in just as many. -/
lemma length_padded_of_lt {width n : Nat} (positive : 0 < width) (h : n < 10 ^ width) :
    (padded width n).toList.length = width := by
  have short := (Nat.length_toDigits_le_iff (b := 10) (n := n) (k := width) (by decide) positive).2 h
  rw [padded, String.toList_ofList, List.length_append, List.length_replicate]
  omega

/-- Two digits hold a number below one hundred. -/
lemma length_padded {n : Nat} (h : n < 100) : (padded 2 n).toList.length = 2 :=
  length_padded_of_lt (by decide) h

/-- Padded digits spell the number. -/
lemma ofDigitChars_padded (width n : Nat) : Nat.ofDigitChars 10 (padded width n).toList 0 = n := by
  rw [padded, String.toList_ofList, Nat.ofDigitChars_append, Nat.ofDigitChars_replicate_zero, Nat.mul_zero,
    Nat.ofDigitChars_ten_toDigits]

/-- Padded digits tell the number. -/
lemma padded_inj {width m n : Nat} (h : padded width m = padded width n) : m = n := by
  rw [← ofDigitChars_padded width m, h, ofDigitChars_padded]

/-- The digits of a day are those of its year, month and day of the month. -/
lemma toList_key (d : Date) :
    d.key.toList = Nat.toDigits 10 d.year ++ ((padded 2 d.month).toList ++ (padded 2 d.day).toList) := by
  show (toString d.year ++ padded 2 d.month ++ padded 2 d.day).toList = _
  simp [String.toList_append]

/-- The digits of a day are eight at most. -/
lemma length_key_le (d : Date) : d.key.toList.length ≤ 8 := by
  have year := (Nat.length_toDigits_le_iff (b := 10) (n := d.year) (k := 4) (by decide) (by decide)).2
    (Nat.lt_succ_of_le d.year_le)
  obtain ⟨month, day⟩ := d.month_le_day_le
  rw [toList_key, List.length_append, List.length_append, length_padded (by omega), length_padded (by omega)]
  omega

/-- There is no underscore among the digits of a day. -/
lemma underscore_not_mem_key (d : Date) : '_' ∉ d.key.toList := by
  have digits : ∀ n, '_' ∉ Nat.toDigits 10 n := fun n => Nat.underscore_not_in_toDigits
  have both : ∀ n, '_' ∉ (padded 2 n).toList := by
    intro n
    rw [padded, String.toList_ofList, List.mem_append]
    rintro (zero | digit)
    · exact absurd (List.eq_of_mem_replicate zero) (by decide)
    · exact digits n digit
  rw [toList_key, List.mem_append, List.mem_append]
  rintro (year | month | day)
  · exact digits _ year
  · exact both _ month
  · exact both _ day

/-- The digits of a day tell the day. -/
theorem key_injective {a b : Date} (h : a.key = b.key) : a = b := by
  have lists := congrArg String.toList h
  rw [toList_key, toList_key] at lists
  obtain ⟨month, day⟩ := a.month_le_day_le
  obtain ⟨month', day'⟩ := b.month_le_day_le
  obtain ⟨years, rest⟩ := List.append_inj' lists (by
    simp only [List.length_append]
    rw [length_padded (by omega), length_padded (by omega), length_padded (by omega), length_padded (by omega)])
  obtain ⟨months, days⟩ := List.append_inj' rest (by rw [length_padded (by omega), length_padded (by omega)])
  apply toYmd_injective
  have year : a.toYmd.1 = b.toYmd.1 := toDigits_inj (by decide) (by decide) years
  have month : a.toYmd.2.1 = b.toYmd.2.1 := padded_inj (String.toList_injective months)
  have day : a.toYmd.2.2 = b.toYmd.2.2 := padded_inj (String.toList_injective days)
  exact Prod.ext year (Prod.ext month day)

end Date

end ActivityReport
