import ActivityReport.Number.Binary
import Mathlib

/-!
# The rounding of fractions

The doubles next to a fraction are the multiples of a power of two (`Number.gridExponent`), and the fraction is rounded
to the nearest one (`Number.gridMantissa_le_iff`). It is within the doubles exactly when its size is below a limit, half
a step beyond the largest double (`Number.isWithinDoubles_iff`), and its digits bound its word (`Number.fractionBits_le`).
-/

namespace ActivityReport.Number

variable {n d k : Nat}

/-! ## Rounded quotients -/

/-- A quotient is rounded to a number or below exactly when it lies less than half a unit above it, or half a unit
above it where it is even. -/
lemma roundDiv_le_iff (pos : 0 < d) :
    roundDiv n d ≤ k ↔ 2 * n < (2 * k + 1) * d ∨ 2 * n = (2 * k + 1) * d ∧ k % 2 = 0 := by
  have split : n = n / d * d + n % d := (Nat.div_add_mod' n d).symm
  have rest : n % d < d := Nat.mod_lt n pos
  unfold roundDiv
  dsimp only
  generalize n / d = q at *
  generalize n % d = r at *
  have twice : (2 * k + 1) * d = 2 * (k * d) + d := by ring
  rw [twice]
  rcases lt_trichotomy k q with less | rfl | more
  · have step : k * d + d ≤ q * d := by
      rw [← Nat.succ_mul]
      exact Nat.mul_le_mul_right d less
    split <;> omega
  · split
    · rename_i up
      simp only [Bool.or_eq_true, decide_eq_true_eq, Bool.and_eq_true, beq_iff_eq] at up
      omega
    · rename_i down
      simp only [Bool.or_eq_true, decide_eq_true_eq, Bool.and_eq_true, beq_iff_eq, not_or] at down
      omega
  · have step : q * d + d ≤ k * d := by
      rw [← Nat.succ_mul]
      exact Nat.mul_le_mul_right d more
    split <;> omega

/-! ## The grid -/

/-- A power of two is compared with a fraction by shifting one of its sides. -/
lemma shiftLeft_le_iff (pos : 0 < d) (e : Int) :
    (if e ≥ 0 then d <<< e.toNat ≤ n else d ≤ n <<< (-e).toNat) ↔ (2 : ℚ) ^ e ≤ n / d := by
  rw [le_div_iff₀ (by exact_mod_cast pos)]
  split
  · obtain ⟨j, rfl⟩ : ∃ j : Nat, e = j := ⟨e.toNat, by omega⟩
    rw [Int.toNat_natCast, Nat.shiftLeft_eq, zpow_natCast, mul_comm]
    exact_mod_cast Iff.rfl
  · obtain ⟨j, rfl⟩ : ∃ j : Nat, e = -j := ⟨(-e).toNat, by omega⟩
    rw [neg_neg, Int.toNat_natCast, Nat.shiftLeft_eq, zpow_neg, zpow_natCast, inv_mul_le_iff₀ (by positivity), mul_comm]
    exact_mod_cast Iff.rfl

/-- The binary exponent of a fraction is the difference of the lengths of its sides, or one less. -/
lemma floorLog2_eq (pos : 0 < d) : floorLog2 n d =
    if (2 : ℚ) ^ ((n.log2 : Int) - d.log2) ≤ n / d then (n.log2 : Int) - d.log2 else (n.log2 : Int) - d.log2 - 1 :=
  if_congr (shiftLeft_le_iff pos _) rfl rfl

/-- The binary exponent of a whole number is the length of its digits. -/
lemma floorLog2_one (notZero : n ≠ 0) : floorLog2 n 1 = n.log2 := by
  have reaches : 1 <<< n.log2 ≤ n := by
    rw [Nat.one_shiftLeft]
    exact Nat.log2_self_le notZero
  have one : Nat.log2 1 = 0 := by decide
  unfold floorLog2
  simp [one, reaches]

/-- The binary exponent of a fraction bounds its size from both sides. -/
lemma floorLog2_bounds (notZero : n ≠ 0) (pos : 0 < d) :
    (2 : ℚ) ^ floorLog2 n d ≤ n / d ∧ (n / d : ℚ) < 2 ^ (floorLog2 n d + 1) := by
  have unit : (0 : ℚ) < d := by exact_mod_cast pos
  have least : (2 : ℚ) ^ (n.log2 : Int) ≤ n := by exact_mod_cast Nat.log2_self_le notZero
  have less : (n : ℚ) < 2 ^ ((n.log2 : Int) + 1) := by exact_mod_cast Nat.lt_log2_self (n := n)
  have least' : (2 : ℚ) ^ (d.log2 : Int) ≤ d := by exact_mod_cast Nat.log2_self_le pos.ne'
  have less' : (d : ℚ) < 2 ^ ((d.log2 : Int) + 1) := by exact_mod_cast Nat.lt_log2_self (n := d)
  rw [floorLog2_eq pos]
  split
  · rename_i up
    refine ⟨up, ?_⟩
    rw [div_lt_iff₀ unit]
    calc (n : ℚ) < 2 ^ ((n.log2 : Int) + 1) := less
      _ = 2 ^ ((n.log2 : Int) - d.log2 + 1) * 2 ^ (d.log2 : Int) := by
        rw [← zpow_add₀ two_ne_zero]
        congr 1
        omega
      _ ≤ 2 ^ ((n.log2 : Int) - d.log2 + 1) * d := mul_le_mul_of_nonneg_left least' (by positivity)
  · rename_i down
    refine ⟨?_, ?_⟩
    · rw [le_div_iff₀ unit]
      calc (2 : ℚ) ^ ((n.log2 : Int) - d.log2 - 1) * d
          ≤ 2 ^ ((n.log2 : Int) - d.log2 - 1) * 2 ^ ((d.log2 : Int) + 1) :=
            mul_le_mul_of_nonneg_left less'.le (by positivity)
        _ = 2 ^ (n.log2 : Int) := by
          rw [← zpow_add₀ two_ne_zero]
          congr 1
          omega
        _ ≤ n := least
    · rw [Int.sub_add_cancel]
      exact not_le.1 down

/-- The exponent of the power of two whose multiples are the doubles next to a fraction. -/
def gridExponent (n d : Nat) : Int := max (floorLog2 n d - 52) (-1074)

/-- The multiple of the power of two to which a fraction is rounded. -/
def gridMantissa (n d : Nat) : Nat :=
  if gridExponent n d ≥ 0 then roundDiv n (d <<< (gridExponent n d).toNat)
  else roundDiv (n <<< (-gridExponent n d).toNat) d

lemma fractionBits_zero (d : Nat) : fractionBits 0 d = 0 := if_pos rfl

/-- The word of a fraction is told by what it is rounded to. -/
lemma fractionBits_eq (notZero : n ≠ 0) (d : Nat) : fractionBits n d =
    if gridMantissa n d < hiddenBit then gridMantissa n d
    else min ((gridExponent n d + 1075).toNat * hiddenBit + (gridMantissa n d - hiddenBit)) infinityBits :=
  if_neg notZero

/-- The multiple is a rounded quotient of the fraction by the power of two. -/
lemma exists_quotient (n : Nat) (pos : 0 < d) : ∃ N D : Nat, 0 < D ∧ gridMantissa n d = roundDiv N D ∧
    (N : ℚ) = n / d / 2 ^ gridExponent n d * D := by
  have unit : (d : ℚ) ≠ 0 := by exact_mod_cast pos.ne'
  unfold gridMantissa
  generalize gridExponent n d = q
  split
  · obtain ⟨j, rfl⟩ : ∃ j : Nat, q = j := ⟨q.toNat, by omega⟩
    refine ⟨_, _, ?_, rfl, ?_⟩
    · rw [Nat.shiftLeft_eq]
      positivity
    · rw [Int.toNat_natCast, Nat.shiftLeft_eq, zpow_natCast]
      push_cast
      field_simp
  · obtain ⟨j, rfl⟩ : ∃ j : Nat, q = -j := ⟨(-q).toNat, by omega⟩
    refine ⟨_, _, pos, rfl, ?_⟩
    rw [neg_neg, Int.toNat_natCast, Nat.shiftLeft_eq, zpow_neg, zpow_natCast]
    push_cast
    field_simp

/-- A fraction is rounded to a multiple or below exactly when it lies less than half a step above it, or half a step
above it where it is even. -/
lemma gridMantissa_le_iff (n : Nat) (pos : 0 < d) : gridMantissa n d ≤ k ↔
    (n / d : ℚ) < (k + 1 / 2) * 2 ^ gridExponent n d ∨
      (n / d : ℚ) = (k + 1 / 2) * 2 ^ gridExponent n d ∧ k % 2 = 0 := by
  obtain ⟨N, D, unit, rounded, quotient⟩ := exists_quotient n pos
  have unit' : (0 : ℚ) < D := by exact_mod_cast unit
  have power : (0 : ℚ) < 2 ^ gridExponent n d := by positivity
  have fraction : (n / d : ℚ) = N * 2 ^ gridExponent n d / D := by
    rw [quotient]
    field_simp
  have scaled : ((k : ℚ) + 1 / 2) * 2 ^ gridExponent n d * D =
      ((2 * k + 1) * D : Nat) * (2 ^ gridExponent n d / 2) := by
    push_cast
    ring
  have twice : (N : ℚ) * 2 ^ gridExponent n d = (2 * N : Nat) * (2 ^ gridExponent n d / 2) := by
    push_cast
    ring
  rw [rounded, roundDiv_le_iff unit, fraction, div_lt_iff₀ unit', div_eq_iff unit'.ne', scaled, twice,
    mul_lt_mul_iff_left₀ (by positivity), mul_left_inj' (by positivity), Nat.cast_lt, Nat.cast_inj]

lemma gridMantissa_le (pos : 0 < d) (le : (n / d : ℚ) ≤ k * 2 ^ gridExponent n d) : gridMantissa n d ≤ k := by
  refine (gridMantissa_le_iff n pos).2 (Or.inl (le.trans_lt ?_))
  exact mul_lt_mul_of_pos_right (lt_add_of_pos_right _ one_half_pos) (by positivity)

lemma le_gridMantissa (pos : 0 < d) (le : k * 2 ^ gridExponent n d ≤ (n / d : ℚ)) : k ≤ gridMantissa n d := by
  cases k with
  | zero => exact Nat.zero_le _
  | succ k =>
    refine Nat.lt_of_not_le fun less => ?_
    have power : (0 : ℚ) < 2 ^ gridExponent n d := by positivity
    push_cast at le
    rcases (gridMantissa_le_iff n pos).1 less with below | ⟨half, -⟩ <;> linarith

/-- What a fraction is rounded to has at most 53 digits, or is the next power of two. -/
lemma gridMantissa_le_two_pow (notZero : n ≠ 0) (pos : 0 < d) : gridMantissa n d ≤ 2 ^ 53 := by
  refine gridMantissa_le pos ((floorLog2_bounds notZero pos).2.le.trans ?_)
  rw [Nat.cast_pow, Nat.cast_ofNat, ← zpow_natCast, ← zpow_add₀ two_ne_zero]
  refine zpow_le_zpow_right₀ one_le_two ?_
  unfold gridExponent
  omega

/-- Above the least exponent it has all 53 digits. -/
lemma two_pow_le_gridMantissa (notZero : n ≠ 0) (pos : 0 < d) (normal : -1074 < gridExponent n d) :
    2 ^ 52 ≤ gridMantissa n d := by
  refine le_gridMantissa pos (le_trans ?_ (floorLog2_bounds notZero pos).1)
  rw [Nat.cast_pow, Nat.cast_ofNat, ← zpow_natCast, ← zpow_add₀ two_ne_zero]
  refine zpow_le_zpow_right₀ one_le_two ?_
  unfold gridExponent at normal ⊢
  omega

/-- The word of a fraction is no larger than that of infinity. -/
lemma fractionBits_le_infinityBits (n d : Nat) : fractionBits n d ≤ infinityBits := by
  by_cases zero : n = 0
  · rw [zero, fractionBits_zero]
    exact Nat.zero_le _
  rw [fractionBits_eq zero]
  split
  · rename_i less
    exact less.le.trans (by decide)
  · exact min_le_right _ _

/-- The digits of a fraction tell how large its word can be. -/
lemma fractionBits_le (pos : 0 < d) {e : Nat} (length : n.log2 ≤ e + 52) :
    fractionBits n d ≤ (e + 1078) * hiddenBit := by
  by_cases zero : n = 0
  · rw [zero, fractionBits_zero]
    exact Nat.zero_le _
  have floor : floorLog2 n d ≤ n.log2 := by
    unfold floorLog2
    dsimp only
    split <;> omega
  have exponent : gridExponent n d ≤ e := by
    unfold gridExponent
    omega
  have most := gridMantissa_le_two_pow zero pos
  have rest : gridMantissa n d - hiddenBit ≤ hiddenBit := by
    unfold hiddenBit
    omega
  rw [fractionBits_eq zero]
  split
  · rename_i less
    exact less.le.trans (Nat.le_mul_of_pos_left _ (by omega))
  · calc min ((gridExponent n d + 1075).toNat * hiddenBit + (gridMantissa n d - hiddenBit)) infinityBits
        ≤ (gridExponent n d + 1075).toNat * hiddenBit + (gridMantissa n d - hiddenBit) := min_le_left _ _
      _ ≤ (e + 1075) * hiddenBit + hiddenBit := Nat.add_le_add (Nat.mul_le_mul_right _ (by omega)) rest
      _ = (e + 1076) * hiddenBit := (Nat.succ_mul ..).symm
      _ ≤ (e + 1078) * hiddenBit := Nat.mul_le_mul_right _ (by omega)

/-! ## The range of the doubles -/

/-- The least size that is rounded beyond the doubles: half a step more than the largest of them. -/
def limit : ℚ := 2 ^ 1024 - 2 ^ 970

lemma limit_eq : limit = (2 ^ 53 - 1 + 1 / 2) * 2 ^ (971 : Int) := by
  have power : (2 : ℚ) ^ 1024 = 2 ^ 54 * 2 ^ 970 := by rw [← pow_add]
  have step : (2 : ℚ) ^ (971 : Int) = 2 * 2 ^ 970 := by
    rw [← pow_succ']
    rfl
  rw [limit, power, step]
  generalize (2 : ℚ) ^ 970 = x
  ring

/-- A fraction lies below the limit exactly when it is rounded to a multiple of the last power of two or of a lesser
one, with 53 digits at most. -/
lemma lt_limit_iff (notZero : n ≠ 0) (pos : 0 < d) :
    (n / d : ℚ) < limit ↔ gridExponent n d < 971 ∨ gridExponent n d = 971 ∧ gridMantissa n d ≤ 2 ^ 53 - 1 := by
  obtain ⟨least, less⟩ := floorLog2_bounds notZero pos
  have exponent : gridExponent n d = max (floorLog2 n d - 52) (-1074) := rfl
  have unit : (0 : ℚ) < 2 ^ (971 : Int) := by positivity
  rcases lt_trichotomy (gridExponent n d) 971 with small | last | large
  · refine iff_of_true ?_ (Or.inl small)
    calc (n / d : ℚ) < 2 ^ (floorLog2 n d + 1) := less
      _ ≤ 2 ^ (52 + 971 : Int) := zpow_le_zpow_right₀ one_le_two (by omega)
      _ = 2 ^ 52 * 2 ^ (971 : Int) := by
        rw [zpow_add₀ two_ne_zero]
        rfl
      _ ≤ limit := by
        rw [limit_eq]
        exact mul_le_mul_of_nonneg_right (by norm_num) unit.le
  · have largest : ((2 ^ 53 - 1 : Nat) : ℚ) = 2 ^ 53 - 1 := by norm_num
    rw [gridMantissa_le_iff n pos, last, largest, limit_eq]
    -- half a step beyond the largest double the multiple is odd, so that a tie is rounded up
    constructor
    · exact fun below => Or.inr ⟨rfl, Or.inl below⟩
    · rintro (smaller | ⟨-, below | ⟨-, even⟩⟩)
      · exact (lt_irrefl _ smaller).elim
      · exact below
      · cases even
  · refine iff_of_false (not_lt.2 ?_) (by omega)
    calc limit ≤ 2 ^ 53 * 2 ^ (971 : Int) := by
          rw [limit_eq]
          exact mul_le_mul_of_nonneg_right (by norm_num) unit.le
      _ = 2 ^ (53 + 971 : Int) := by
        rw [zpow_add₀ two_ne_zero]
        rfl
      _ ≤ 2 ^ floorLog2 n d := zpow_le_zpow_right₀ one_le_two (by omega)
      _ ≤ n / d := least

lemma one_lt_limit : 1 < limit := by
  rw [limit_eq]
  exact one_lt_mul_of_lt_of_le (by norm_num) (one_le_zpow₀ one_le_two (by decide))

/-- A whole number with no more than 1023 binary digits lies within the doubles. -/
lemma abs_lt_limit {n : Int} {k : Nat} (le : k ≤ 1023) (small : n.natAbs < 2 ^ k) : |(n : ℚ)| < limit := by
  have size : |(n : ℚ)| < 2 ^ k := by
    rw [← Int.cast_abs, ← Nat.cast_natAbs]
    exact_mod_cast small
  have power : (2 : ℚ) ^ 1023 = 2 ^ 52 * 2 ^ (971 : Int) := by
    rw [← zpow_natCast, ← zpow_natCast, ← zpow_add₀ two_ne_zero]
    rfl
  refine (size.trans_le (pow_le_pow_right₀ one_le_two le)).trans_le ?_
  rw [power, limit_eq]
  exact mul_le_mul_of_nonneg_right (by norm_num) (by positivity)

lemma fractionBits_lt_iff (n : Nat) (pos : 0 < d) : fractionBits n d < infinityBits ↔ (n / d : ℚ) < limit := by
  by_cases zero : n = 0
  · rw [zero, Nat.cast_zero, zero_div]
    exact iff_of_true (show 0 < infinityBits by decide) (zero_lt_one.trans one_lt_limit)
  have most := gridMantissa_le_two_pow zero pos
  have full := two_pow_le_gridMantissa zero pos
  have least : -1074 ≤ gridExponent n d := le_max_right _ _
  rw [lt_limit_iff zero pos, fractionBits_eq zero]
  generalize gridExponent n d = q at *
  generalize gridMantissa n d = m at *
  unfold hiddenBit infinityBits
  split <;> omega

/-- A rational number lies within the doubles exactly when its size is below the limit. -/
theorem isWithinDoubles_iff (x : ℚ) : isWithinDoubles x = true ↔ |x| < limit := by
  have size : |x| = (x.num.natAbs : ℚ) / x.den := by
    conv_lhs => rw [← Rat.num_div_den x]
    rw [abs_div, Nat.abs_cast, Nat.cast_natAbs, Int.cast_abs]
  rw [size, ← fractionBits_lt_iff _ x.den_pos]
  exact decide_eq_true_iff

end ActivityReport.Number
