import ActivityReport.Proofs.Number.Nearest
import ActivityReport.Query.Evaluation

/-!
# Sums that are no words

A sum of two words that is no word itself is worked out as a double. It is rounded three times, and still lies beyond
all words on the side of the sum (`Number.exists_parts_add_of_beyond`): the last rounding brings up what the first two
have taken away. So such a sum is compared with a word as in whole numbers (`Amount.compareInt_add_eq_gt_iff`,
`Amount.compareInt_add_eq_lt_iff`).
-/

namespace ActivityReport.Number

open Float.Model
open Float.Model.UnpackedFloat

/-! ## Rounding upwards -/

lemma le_roundedMantissa (em : ExtendedMantissa) : em.mantissa ≤ em.roundedMantissa := by
  obtain ⟨m, round, sticky⟩ := em
  cases round <;> cases sticky <;>
    simp [ExtendedMantissa.roundedMantissa, ExtendedMantissa.accuracy, Accuracy.roundToNearestEven]

/-- The mantissa that is left when a number is shifted to the exponent that it asks for. -/
lemma mantissa_shiftToTargetExponent (m : Nat) (e : Int) (accuracy : Accuracy) :
    (shiftToTargetExponent .binary64 m e accuracy).1.mantissa =
      m / 2 ^ (max (totalExponent m e - 53) (-1074) - e).toNat := by
  have target : Format.binary64.targetExponent (totalExponent m e) = max (totalExponent m e - 53) (-1074) := rfl
  unfold shiftToTargetExponent shiftToExponent
  simp only [target, mantissa_shiftRight, mantissa_ofMantissaAndAccuracy]

/-- An odd mantissa whose next digit is cut off is rounded up. -/
lemma roundedMantissa_of_odd {em : ExtendedMantissa} (odd : em.mantissa % 2 = 1) (cut : em.roundBit = true) :
    em.roundedMantissa = em.mantissa + 1 := by
  obtain ⟨m, round, sticky⟩ := em
  obtain rfl : round = true := cut
  cases sticky
  · exact congrArg (m + ·) odd
  · rfl

/-- Whether an unpacked double has a sign, a mantissa of full length and an exponent from some number on. -/
def IsLarge (sign : Sign) (e : Int) : UnpackedFloat → Prop
  | .finite s m e' _ => s = sign ∧ 2 ^ 52 ≤ m ∧ m < 2 ^ 53 ∧ e ≤ e'
  | _ => False

/-- What is rounded to 53 digits or to the next power of two keeps its value when it is brought to 53 digits; only the
power of two gets the next exponent. -/
lemma exists_roundWithAccuracy (sign : Sign) (m : Nat) (e : Int) (accuracy : Accuracy)
    (full : 2 ^ 52 ≤ (shiftToTargetExponent .binary64 m e accuracy).1.roundedMantissa) :
    ∃ m' e' positive, roundWithAccuracy .binary64 sign m e accuracy = .finite sign m' e' positive ∧
      (2 ^ 52 ≤ m' ∧ m' < 2 ^ 53) ∧ (shiftToTargetExponent .binary64 m e accuracy).2 ≤ e' ∧
      e' ≤ (shiftToTargetExponent .binary64 m e accuracy).2 + 1 ∧
      ((shiftToTargetExponent .binary64 m e accuracy).1.roundedMantissa = 2 ^ 53 →
        e' = (shiftToTargetExponent .binary64 m e accuracy).2 + 1) ∧
      (m' : ℚ) * 2 ^ e' = (shiftToTargetExponent .binary64 m e accuracy).1.roundedMantissa *
        2 ^ (shiftToTargetExponent .binary64 m e accuracy).2 := by
  obtain ⟨short, first⟩ := shiftToTargetExponent_le m e accuracy
  have le := roundedMantissa_le (shiftToTargetExponent .binary64 m e accuracy).1
  have least : -1074 ≤ (shiftToTargetExponent .binary64 m e accuracy).2 := by
    rw [first]
    omega
  unfold roundWithAccuracy
  dsimp only
  generalize (shiftToTargetExponent .binary64 m e accuracy).1.roundedMantissa = r at *
  generalize (shiftToTargetExponent .binary64 m e accuracy).2 = t at *
  obtain ⟨-, second⟩ := shiftToTargetExponent_le r t .exact
  have mantissa := mantissa_shiftToTargetExponent r t .exact
  generalize (shiftToTargetExponent .binary64 r t .exact).1.mantissa = m' at *
  generalize (shiftToTargetExponent .binary64 r t .exact).2 = t' at *
  have notZero : r ≠ 0 := by omega
  -- there is either no digit to cut off, or a last one that is 0
  rcases (show r ≤ 2 ^ 53 by omega).lt_or_eq with less | rfl
  · have digits : r.log2 = 52 :=
      le_antisymm (Nat.le_of_lt_succ ((Nat.log2_lt notZero).2 less)) ((Nat.le_log2 notZero).2 full)
    have shift : (max (totalExponent r t - 53) (-1074) - t).toNat = 0 := by
      unfold totalExponent
      omega
    have same : t' = t := by
      unfold totalExponent at second
      omega
    rw [shift, pow_zero, Nat.div_one] at mantissa
    subst mantissa same
    rw [dif_neg notZero]
    exact ⟨_, _, _, rfl, ⟨full, less⟩, le_rfl, by omega, fun carry => absurd carry less.ne, rfl⟩
  · have shift : (max (totalExponent (2 ^ 53) t - 53) (-1074) - t).toNat = 1 := by
      unfold totalExponent
      rw [Nat.log2_two_pow]
      omega
    have next : t' = 1 + t := by
      unfold totalExponent at second
      rw [Nat.log2_two_pow] at second
      omega
    have half : m' = 2 ^ 52 := by
      rw [mantissa, shift]
      decide
    subst half next
    rw [dif_neg (by decide)]
    refine ⟨_, _, _, rfl, ⟨le_rfl, by decide⟩, by omega, by omega, fun _ => by omega, ?_⟩
    rw [zpow_one_add₀ two_ne_zero]
    push_cast
    ring

/-- So its exponent is no less than the one that it was rounded with. -/
lemma isLarge_roundWithAccuracy {sign : Sign} {m : Nat} {e bound : Int} {accuracy : Accuracy}
    (long : bound ≤ (shiftToTargetExponent .binary64 m e accuracy).2 ∧
        2 ^ 52 ≤ (shiftToTargetExponent .binary64 m e accuracy).1.roundedMantissa ∨
      bound ≤ (shiftToTargetExponent .binary64 m e accuracy).2 + 1 ∧
        (shiftToTargetExponent .binary64 m e accuracy).1.roundedMantissa = 2 ^ 53) :
    IsLarge sign bound (roundWithAccuracy .binary64 sign m e accuracy) := by
  obtain ⟨m', e', positive, rounded, ⟨full, short⟩, least, -, carry, -⟩ :=
    exists_roundWithAccuracy sign m e accuracy (by omega)
  rw [rounded]
  refine ⟨rfl, full, short, ?_⟩
  rcases long with ⟨le, -⟩ | ⟨le, power⟩
  · omega
  · rw [carry power]
    exact le

/-- The digits of a number bound its size. -/
lemma mul_zpow_lt (m : Nat) (e : Int) : (m : ℚ) * 2 ^ e < 2 ^ totalExponent m e := by
  have below : (m : ℚ) < 2 ^ (m.log2 + 1) := by exact_mod_cast Nat.lt_log2_self
  unfold totalExponent
  rw [zpow_add₀ two_ne_zero, show ((m.log2 : Int) + 1) = ((m.log2 + 1 : Nat) : Int) from rfl, zpow_natCast]
  exact mul_lt_mul_of_pos_right below (by positivity)

/-- What falls short of the first number beyond the words by less than a digit is rounded to it when it is shifted. -/
lemma roundedMantissa_of_almost {m j : Nat} (le : (2 ^ 54 - 1) * 2 ^ j ≤ m) (less : m < 2 ^ (54 + j)) :
    (ExtendedMantissa.ofMantissaAndAccuracy m .exact >>> (j + 1)).roundedMantissa = 2 ^ 53 := by
  have digits : m / 2 ^ j = 2 ^ 54 - 1 := by
    refine Nat.div_eq_of_lt_le (by omega) ?_
    rw [show 2 ^ 54 - 1 + 1 = 2 ^ 54 by decide, ← pow_add]
    exact less
  have mantissa : (ExtendedMantissa.ofMantissaAndAccuracy m .exact >>> j).mantissa = 2 ^ 54 - 1 := by
    rw [mantissa_shiftRight, mantissa_ofMantissaAndAccuracy, digits]
  have step : ExtendedMantissa.ofMantissaAndAccuracy m .exact >>> (j + 1) =
    (ExtendedMantissa.ofMantissaAndAccuracy m .exact >>> j).shiftRightOne := rfl
  rw [step]
  generalize ExtendedMantissa.ofMantissaAndAccuracy m .exact >>> j = em at mantissa ⊢
  have half : em.shiftRightOne.mantissa = 2 ^ 53 - 1 := by
    show em.mantissa / 2 = _
    rw [mantissa]
    decide
  rw [roundedMantissa_of_odd (by rw [half]; decide) ?_, half]
  · decide
  · show (em.mantissa % 2 != 0) = true
    rw [mantissa]
    decide

lemma le_totalExponent {m : Nat} {e : Int} (size : (2 : ℚ) ^ 63 ≤ m * 2 ^ e + 512) : 63 ≤ totalExponent m e := by
  by_contra short
  have below := (mul_zpow_lt m e).trans_le (zpow_le_zpow_right₀ one_le_two (show totalExponent m e ≤ 62 by omega))
  norm_num at below size
  linarith

/-- What falls short of the first number beyond the words by 512 at most, with digits enough, is rounded to a number
of that size. -/
lemma isLarge_of_digits {sign : Sign} {m : Nat} {e : Int} (size : (2 : ℚ) ^ 63 ≤ m * 2 ^ e + 512)
    (low : e ≤ totalExponent m e - 53) : IsLarge sign 11 (roundWithAccuracy .binary64 sign m e .exact) := by
  have total := le_totalExponent size
  have notZero : m ≠ 0 := by
    rintro rfl
    norm_num at size
  obtain ⟨-, second⟩ := shiftToTargetExponent_le m e .exact
  obtain ⟨j, shift⟩ : ∃ j : Nat, totalExponent m e - 53 = e + j :=
    ⟨(totalExponent m e - 53 - e).toNat, by omega⟩
  have digits : m.log2 = 52 + j := by
    unfold totalExponent at shift
    omega
  have toNat : (max (totalExponent m e - 53) (-1074) - e).toNat = j := by omega
  refine isLarge_roundWithAccuracy ?_
  by_cases more : 64 ≤ totalExponent m e
  · refine Or.inl ⟨by omega, le_trans ?_ (le_roundedMantissa _)⟩
    rw [mantissa_shiftToTargetExponent, toNat, Nat.le_div_iff_mul_le (Nat.two_pow_pos j), ← pow_add, ← digits]
    exact Nat.log2_self_le notZero
  -- with one digit less the mantissa is odd, and the digit that is cut off is 1
  · have exponent : e = 10 - j := by omega
    have less : m < 2 ^ (53 + j) := by
      rw [← Nat.log2_lt notZero]
      omega
    have close : (2 ^ 54 - 1) * 2 ^ j ≤ 2 * m := by
      rw [exponent, zpow_sub₀ two_ne_zero, zpow_natCast, ← mul_div_assoc, ← sub_le_iff_le_add,
        le_div_iff₀ (by positivity)] at size
      have scaled : ((2 : ℚ) ^ 54 - 1) * 2 ^ j ≤ 2 * m := by
        norm_num at size ⊢
        linarith
      have power : ((2 : ℚ) ^ 54 - 1) = ((2 ^ 54 - 1 : Nat) : ℚ) := by norm_num
      rw [power] at scaled
      exact_mod_cast scaled
    obtain ⟨i, rfl⟩ : ∃ i, j = i + 1 := by
      cases j with
      | zero => omega
      | succ i => exact ⟨i, rfl⟩
    refine Or.inr ⟨by omega, ?_⟩
    have first : (shiftToTargetExponent .binary64 m e .exact).1 =
        ExtendedMantissa.ofMantissaAndAccuracy m .exact >>> (i + 1) := by
      rw [← toNat]
      rfl
    rw [first]
    refine roundedMantissa_of_almost ?_ ?_
    · rw [pow_succ] at close
      omega
    · rw [show 54 + i = 53 + (i + 1) by omega]
      exact less

/-- What falls short of the first number beyond the words by 512 at most is rounded to a number of that size. -/
lemma isLarge_round {sign : Sign} {m : Nat} {e : Int} (size : (2 : ℚ) ^ 63 ≤ m * 2 ^ e + 512) :
    IsLarge sign 11 (UnpackedFloat.round .binary64 sign m e) := by
  have target : Format.binary64.targetExponent (totalExponent m e) = max (totalExponent m e - 53) (-1074) := rfl
  have notZero : m ≠ 0 := by
    rintro rfl
    norm_num at size
  unfold UnpackedFloat.round decreaseExponent
  simp only [target]
  obtain ⟨k, shift⟩ : ∃ k, (e - max (totalExponent m e - 53) (-1074)).toNat = k := ⟨_, rfl⟩
  have total := le_totalExponent size
  rw [shift]
  refine isLarge_of_digits ?_ ?_
  · rw [shiftLeft_mul_zpow, Int.sub_add_cancel]
    exact size
  · unfold totalExponent at shift total ⊢
    rw [log2_shiftLeft notZero]
    omega

/-! ## Sums of two words -/

/-- The sum of two doubles of one sign is what their sizes together are rounded to. -/
lemma exists_add_eq_round (sign : Sign) {m m' : Nat} (e e' : Int) (positive : 0 < m) (positive' : 0 < m') :
    ∃ n : Nat, UnpackedFloat.add .binary64 (.finite sign m e positive) (.finite sign m' e' positive') =
        UnpackedFloat.round .binary64 sign n (min e e') ∧
      (n : ℚ) * 2 ^ min e e' = m * 2 ^ e + m' * 2 ^ e' := by
  have scaled : ∀ {n : Nat} {i : Int}, min e e' ≤ i →
      ((n <<< (i - min e e').toNat : Nat) : ℚ) * 2 ^ min e e' = n * 2 ^ i := by
    intro n i le
    rw [shiftLeft_mul_zpow, show min e e' + ((i - min e e').toNat : Int) = i by omega]
  refine ⟨m <<< (e - min e e').toNat + m' <<< (e' - min e e').toNat, ?_, ?_⟩
  · show normalize .binary64 (sign.apply (m <<< (e - min e e').toNat : Nat) +
      sign.apply (m' <<< (e' - min e e').toNat : Nat)) (min e e') .positive = _
    have first : 0 < m <<< (e - min e e').toNat := by
      rw [Nat.shiftLeft_eq]
      positivity
    generalize m <<< (e - min e e').toNat = n at first ⊢
    generalize m' <<< (e' - min e e').toNat = n'
    unfold UnpackedFloat.normalize
    cases sign with
    | positive =>
      simp only [Sign.apply]
      rw [show compare ((n : Int) + n') 0 = .gt from Int.compare_eq_gt.2 (by omega)]
      rfl
    | negative =>
      simp only [Sign.apply]
      rw [show compare (-(n : Int) + -n') 0 = .lt from Int.compare_eq_lt.2 (by omega)]
      dsimp only
      rw [show (-(-(n : Int) + -n')).toNat = n + n' by omega]
  · rw [Nat.cast_add, add_mul, scaled (min_le_left e e'), scaled (min_le_right e e')]

/-- The sum of two doubles of one sign is as large as their values together. -/
lemma isLarge_add {sign : Sign} {m m' : Nat} {e e' : Int} {positive : 0 < m} {positive' : 0 < m'}
    (size : (2 : ℚ) ^ 63 ≤ m * 2 ^ e + m' * 2 ^ e' + 512) :
    IsLarge sign 11 (UnpackedFloat.add .binary64 (.finite sign m e positive) (.finite sign m' e' positive')) := by
  obtain ⟨n, sum, total⟩ := exists_add_eq_round sign e e' positive positive'
  rw [sum]
  refine isLarge_round ?_
  rw [total]
  exact size

/-- The sum of two words that is no word itself is worked out as a double beyond all words, on the side of the sum. -/
lemma exists_parts_add_of_beyond {a b : Int} (fits : fitsWord a = true) (fits' : fitsWord b = true)
    (beyond : fitsWord (a + b) = false) : ∃ (m : Nat) (e : Int),
      parts? (ofInt a + ofInt b) = some ⟨a + b < 0, m, e⟩ ∧ 2 ^ 52 ≤ m ∧ 11 ≤ e := by
  -- a sum leaves the words only if both are on one side of zero, so that nothing cancels
  have signs : (a < 0 ∧ b < 0 ∨ 0 < a ∧ 0 < b) ∧ 2 ^ 63 ≤ a.natAbs + b.natAbs ∧
      a.natAbs ≤ 2 ^ 63 ∧ b.natAbs ≤ 2 ^ 63 := by
    unfold fitsWord at fits fits' beyond
    simp only [Bool.and_eq_true, decide_eq_true_eq, Bool.and_eq_false_iff, decide_eq_false_iff_not] at fits fits' beyond
    omega
  obtain ⟨sides, sum, word, word'⟩ := signs
  obtain ⟨m, e, positive, unpacked, short, small, value⟩ := exists_unpack_ofInt (n := a) (by omega) fits
  obtain ⟨m', e', positive', unpacked', short', small', value'⟩ := exists_unpack_ofInt (n := b) (by omega) fits'
  have side : decide (a < 0) = decide (a + b < 0) ∧ decide (b < 0) = decide (a + b < 0) := by
    rcases sides with ⟨below, below'⟩ | ⟨above, above'⟩
    · simp [below, below', show a + b < 0 by omega]
    · simp [show ¬ a < 0 by omega, show ¬ b < 0 by omega, show ¬ a + b < 0 by omega]
  rw [side.1] at unpacked
  rw [side.2] at unpacked'
  have size : (2 : ℚ) ^ 63 ≤ m * 2 ^ e + m' * 2 ^ e' + 512 := by
    rw [value, value']
    exact_mod_cast le_nearest_add_nearest word word' sum
  have large : IsLarge (signOf (a + b < 0)) 11 (UnpackedFloat.add .binary64
      (.finite (signOf (a + b < 0)) m e positive) (.finite (signOf (a + b < 0)) m' e' positive')) := isLarge_add size
  have bounded : IsBounded 14 (UnpackedFloat.add .binary64 (ofInt a).toModel.unpack (ofInt b).toModel.unpack) := by
    rw [unpacked, unpacked']
    exact IsBounded.add (e := 12) ⟨short, small⟩ ⟨short', small'⟩ (by decide)
  rw [← unpacked, ← unpacked'] at large
  have packed : ofInt a + ofInt b = Float.ofModel (Float.Model.pack
    (UnpackedFloat.add .binary64 (ofInt a).toModel.unpack (ofInt b).toModel.unpack)) := rfl
  rw [packed]
  generalize UnpackedFloat.add .binary64 (ofInt a).toModel.unpack (ofInt b).toModel.unpack = u at large bounded
  cases u with
  | finite s n i pos =>
    obtain ⟨rfl, full, shorter, least⟩ := large
    have most := bounded.2
    exact ⟨n, i, parts?_pack full shorter (by omega) (by omega), full, least⟩
  | _ => exact large.elim

/-- The value of parts whose mantissa has full length and whose exponent is large lies beyond all words. -/
lemma Parts.beyond_toRat (negative : Bool) {m : Nat} {e : Int} (full : 2 ^ 52 ≤ m) (large : 11 ≤ e) :
    if negative then (Parts.mk negative m e).toRat ≤ -2 ^ 63 else 2 ^ 63 ≤ (Parts.mk negative m e).toRat := by
  have size : (2 : ℚ) ^ 63 ≤ mkRat (m <<< e.toNat : Nat) 1 := by
    have digits : 2 ^ 52 * 2 ^ 11 ≤ m <<< e.toNat := by
      rw [Nat.shiftLeft_eq]
      exact Nat.mul_le_mul full (Nat.pow_le_pow_right Nat.two_pos (by omega))
    rw [Rat.mkRat_one]
    exact_mod_cast digits
  have value : (Parts.mk negative m e).toRat =
      if negative then -mkRat (m <<< e.toNat : Nat) 1 else mkRat (m <<< e.toNat : Nat) 1 := by
    unfold toRat
    dsimp only
    rw [if_pos (show e ≥ 0 by omega)]
  rw [value]
  cases negative
  · exact size
  · exact neg_le_neg size

end ActivityReport.Number

namespace ActivityReport.Amount

open Number (fitsWord)

variable {a b n : Int}

/-- The sum of two words is compared with another word as in whole numbers, except that every sum below all words is
taken for the least word or for less. -/
lemma compareInt_add (fits : fitsWord a = true) (fits' : fitsWord b = true) (word : fitsWord n = true) :
    compareInt (add (.whole a) (.whole b)) n = compare (a + b) n ∨
      a + b < -2 ^ 63 ∧ n = -2 ^ 63 ∧ compareInt (add (.whole a) (.whole b)) n = .eq := by
  by_cases exact : fitsWord (a + b) = true
  · rw [add_whole exact]
    exact Or.inl rfl
  · rw [Bool.not_eq_true] at exact
    obtain ⟨m, e, parts, full, large⟩ := Number.exists_parts_add_of_beyond fits fits' exact
    have place : (Number.Numeral.real (Number.ofInt a + Number.ofInt b)).extent? =
        some (.value (Number.Parts.mk (a + b < 0) m e).toRat) := by
      show Number.extentOfFloat? _ = _
      rw [Number.extentOfFloat?, parts]
    have sum : add (.whole a) (.whole b) = .real (Number.ofInt a + Number.ofInt b) := by
      show (if fitsWord (a + b) then _ else _) = _
      rw [exact]
      rfl
    have far := Number.Parts.beyond_toRat (a + b < 0) full large
    generalize (Number.Parts.mk (a + b < 0) m e).toRat = r at far place
    have order : compareInt (add (.whole a) (.whole b)) n =
        if r < n then .lt else if (n : ℚ) < r then .gt else .eq := by
      rw [sum]
      show Number.Numeral.compare _ _ = _
      unfold Number.Numeral.compare
      dsimp only
      rw [place]
      rfl
    unfold fitsWord at fits fits' word exact
    simp only [Bool.and_eq_true, decide_eq_true_eq, Bool.and_eq_false_iff, decide_eq_false_iff_not]
      at fits fits' word exact
    rw [order]
    -- the least word is itself `-2 ^ 63`, where sums from below are rounded to; the greatest lies under `2 ^ 63`
    by_cases below : a + b < 0
    · rw [decide_eq_true below, if_pos rfl] at far
      by_cases least : r < n
      · rw [if_pos least]
        exact Or.inl (Int.compare_eq_lt.2 (by omega)).symm
      · have same : (n : ℚ) ≤ (-2 ^ 63 : Int) := (not_lt.1 least).trans (by push_cast; exact far)
        have le : n ≤ -2 ^ 63 := by exact_mod_cast same
        have notAbove : ¬ (n : ℚ) < r := by
          refine not_lt.2 (far.trans ?_)
          exact_mod_cast (show (-2 ^ 63 : Int) ≤ n by omega)
        rw [if_neg least, if_neg notAbove]
        exact Or.inr ⟨by omega, by omega, rfl⟩
    · rw [decide_eq_false below, if_neg Bool.false_ne_true] at far
      have less : (n : ℚ) < r := by
        refine lt_of_lt_of_le ?_ far
        exact_mod_cast (show n < (2 ^ 63 : Int) by omega)
      rw [if_neg (not_lt.2 less.le), if_pos less]
      exact Or.inl (Int.compare_eq_gt.2 (by omega)).symm

/-- A sum of two words is above a word exactly when it is so in whole numbers. -/
theorem compareInt_add_eq_gt_iff (fits : fitsWord a = true) (fits' : fitsWord b = true) (word : fitsWord n = true) :
    compareInt (add (.whole a) (.whole b)) n = .gt ↔ n < a + b := by
  rcases compareInt_add fits fits' word with same | ⟨below, rfl, same⟩
  · rw [same, Int.compare_eq_gt]
  · rw [same]
    exact ⟨nofun, fun above => absurd above (by omega)⟩

/-- A sum of two words is below a word other than the least one exactly when it is so in whole numbers. -/
theorem compareInt_add_eq_lt_iff (fits : fitsWord a = true) (fits' : fitsWord b = true) (word : fitsWord n = true)
    (least : -2 ^ 63 < n) : compareInt (add (.whole a) (.whole b)) n = .lt ↔ a + b < n := by
  rcases compareInt_add fits fits' word with same | ⟨-, rfl, -⟩
  · rw [same, Int.compare_eq_lt]
  · exact absurd least (lt_irrefl _)

end ActivityReport.Amount
