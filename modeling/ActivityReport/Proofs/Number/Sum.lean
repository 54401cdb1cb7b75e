import ActivityReport.Proofs.Number.Nearest
import ActivityReport.Proofs.Number.Overflow
import ActivityReport.Proofs.Number.Zero

/-!
# Sums of a whole number and a fraction

A sum is rounded to a multiple of a power of two, and never beyond one (`Number.isRounded_round`). So when a double between
0 and 1 is added to a whole number that is exact, the sum stays between that number and the next
(`Number.isBetween_ofInt_add`).
-/

namespace ActivityReport.Number

open Float.Model
open Float.Model.UnpackedFloat

/-! ## Unpacked doubles -/

/-- A double without a first digit is unpacked to its parts, or to 0. -/
lemma unpack_of_subnormal {x : Float} (field : x.toBits.toNat / hiddenBit % 2048 = 0) :
    x.toBits.toNat % hiddenBit = 0 ∧ x.toModel.unpack = .zero (signOf (x.toBits.toNat ≥ signBit true)) ∨
      ∃ positive, x.toModel.unpack =
        .finite (signOf (x.toBits.toNat ≥ signBit true)) (x.toBits.toNat % hiddenBit) (-1074) positive := by
  obtain ⟨exponent, mantissa⟩ := toNat_unpack x.toModel.toBits.toBitVec
  have sign := ofBitVec_unpackSign x.toModel.toBits.toBitVec
  have zero : @unpackExponent .binary64 x.toModel.toBits.toBitVec = 0#11 :=
    BitVec.eq_of_toNat_eq (exponent.trans field)
  have bias : ((Format.exponentBias .binary64 : Nat) : Int) + (Format.mantissaBitsWithoutImplicit .binary64 : Nat) =
    1075 := rfl
  unfold Float.Model.unpack UnpackedFloat.unpack
  dsimp only
  rw [if_neg (fun ones => by rw [zero] at ones; cases congrArg BitVec.toNat ones), if_pos zero]
  split
  · rename_i none
    rw [none] at mantissa
    exact Or.inl ⟨mantissa.symm, congrArg UnpackedFloat.zero sign⟩
  · rename_i some
    have positive : 0 < x.toBits.toNat % hiddenBit := by
      refine Nat.pos_of_ne_zero fun none => some (BitVec.eq_of_toNat_eq ?_)
      rw [mantissa]
      exact none
    refine Or.inr ⟨positive, ?_⟩
    simp only [mantissa, bias, zero, sign]
    rfl

/-- A finite double is unpacked to its parts, or to 0. -/
lemma unpack_of_parts? {x : Float} {p : Parts} (h : parts? x = some p) :
    p.mantissa = 0 ∧ x.toModel.unpack = .zero (signOf p.negative) ∨
      ∃ positive, x.toModel.unpack = .finite (signOf p.negative) p.mantissa p.exponent positive := by
  unfold parts? at h
  dsimp only at h
  split at h
  · cases h
  rename_i finite
  split at h
  · rename_i subnormal
    cases h
    exact unpack_of_subnormal subnormal
  · rename_i normal
    cases h
    have field : x.toBits.toNat / hiddenBit % 2048 < 2048 := Nat.mod_lt _ (by decide)
    exact Or.inr (unpack_of_field (Nat.pos_of_ne_zero normal) (by omega))

/-! ## Rounding -/

lemma zpow_le_mul {m : Nat} (notZero : m ≠ 0) (e : Int) : (2 : ℚ) ^ (totalExponent m e - 1) ≤ m * 2 ^ e := by
  have above : (2 : ℚ) ^ m.log2 ≤ m := by exact_mod_cast Nat.log2_self_le notZero
  unfold totalExponent
  rw [show (m.log2 : Int) + 1 + e - 1 = m.log2 + e by omega, zpow_add₀ two_ne_zero, zpow_natCast]
  exact mul_le_mul_of_nonneg_right above (by positivity)

/-- Nothing is cut off from a multiple of the power of two by which it is divided. -/
lemma shiftRight_mul (m k : Nat) :
    ExtendedMantissa.ofMantissaAndAccuracy (m * 2 ^ k) .exact >>> k = .ofMantissaAndAccuracy m .exact := by
  induction k generalizing m with
  | zero => rw [pow_zero, mul_one]; rfl
  | succ k ih =>
    show (ExtendedMantissa.ofMantissaAndAccuracy (m * 2 ^ (k + 1)) .exact >>> k).shiftRightOne = _
    rw [pow_succ', ← mul_assoc, ih]
    simp [ExtendedMantissa.ofMantissaAndAccuracy, ExtendedMantissa.shiftRightOne]

/-- A mantissa that is divided by a power of two is not rounded beyond a number that it does not exceed. -/
lemma roundedMantissa_shiftRight_le {m j k : Nat} (le : m ≤ j * 2 ^ k) :
    (ExtendedMantissa.ofMantissaAndAccuracy m .exact >>> k).roundedMantissa ≤ j := by
  rcases le.lt_or_eq with less | rfl
  · refine (roundedMantissa_le _).trans ?_
    rw [mantissa_shiftRight, mantissa_ofMantissaAndAccuracy]
    exact (Nat.div_lt_iff_lt_mul (Nat.two_pow_pos k)).2 less
  · rw [shiftRight_mul]
    exact le_rfl

lemma le_roundedMantissa_shiftRight {m j k : Nat} (le : j * 2 ^ k ≤ m) :
    j ≤ (ExtendedMantissa.ofMantissaAndAccuracy m .exact >>> k).roundedMantissa := by
  refine le_trans ?_ (le_roundedMantissa _)
  rw [mantissa_shiftRight, mantissa_ofMantissaAndAccuracy]
  exact (Nat.le_div_iff_mul_le (Nat.two_pow_pos k)).2 le

/-- Whether an unpacked double has a mantissa of full length, and does not lie beyond a multiple of a power of two that
a number does not lie beyond. -/
def IsRounded (sign : Sign) (t : Int) (x : ℚ) : UnpackedFloat → Prop
  | .finite s m e _ => s = sign ∧ (2 ^ 52 ≤ m ∧ m < 2 ^ 53) ∧ (t ≤ e ∧ e ≤ t + 1) ∧
      ∀ k : Nat, (k * 2 ^ t ≤ x → k * 2 ^ t ≤ (m : ℚ) * 2 ^ e) ∧ (x ≤ k * 2 ^ t → (m : ℚ) * 2 ^ e ≤ k * 2 ^ t)
  | _ => False

/-- A number with digits enough is rounded to a multiple of the power of two that its size asks for. -/
lemma isRounded_of_digits (sign : Sign) {n : Nat} {e : Int} (notZero : n ≠ 0) (normal : -1021 ≤ totalExponent n e)
    (low : e ≤ totalExponent n e - 53) :
    IsRounded sign (totalExponent n e - 53) (n * 2 ^ e) (roundWithAccuracy .binary64 sign n e .exact) := by
  obtain ⟨s, shift⟩ : ∃ s : Nat, totalExponent n e - 53 = e + s :=
    ⟨(totalExponent n e - 53 - e).toNat, by omega⟩
  have digits : n.log2 = 52 + s := by
    unfold totalExponent at shift
    omega
  have toNat : (max (totalExponent n e - 53) (-1074) - e).toNat = s := by omega
  have first : shiftToTargetExponent .binary64 n e .exact =
      (ExtendedMantissa.ofMantissaAndAccuracy n .exact >>> s, totalExponent n e - 53) := by
    rw [← toNat]
    refine Prod.ext rfl ?_
    show e + (((max (totalExponent n e - 53) (-1074) - e).toNat : Nat) : Int) = _
    omega
  have full : 2 ^ 52 ≤ (shiftToTargetExponent .binary64 n e .exact).1.roundedMantissa := by
    rw [first]
    refine le_roundedMantissa_shiftRight ?_
    rw [← pow_add, ← digits]
    exact Nat.log2_self_le notZero
  obtain ⟨m, e', positive, rounded, ⟨long, short⟩, least, most, -, value⟩ :=
    exists_roundWithAccuracy sign n e .exact full
  rw [first] at least most value
  rw [rounded]
  have unit : (0 : ℚ) < 2 ^ (totalExponent n e - 53) := by positivity
  have multiple : ∀ k : Nat, (k : ℚ) * 2 ^ (totalExponent n e - 53) = (k * 2 ^ s : Nat) * 2 ^ e := by
    intro k
    rw [shift, zpow_add₀ two_ne_zero, zpow_natCast]
    push_cast
    ring
  refine ⟨rfl, ⟨long, short⟩, ⟨least, most⟩, fun k => ?_⟩
  rw [value, mul_le_mul_iff_left₀ unit, mul_le_mul_iff_left₀ unit, multiple, mul_le_mul_iff_left₀ (by positivity),
    mul_le_mul_iff_left₀ (by positivity), Nat.cast_le, Nat.cast_le, Nat.cast_le, Nat.cast_le]
  exact ⟨le_roundedMantissa_shiftRight, roundedMantissa_shiftRight_le⟩

/-- A number that is not too small is rounded to a multiple of the power of two that its size asks for. -/
lemma isRounded_round (sign : Sign) {n : Nat} {e : Int} (notZero : n ≠ 0) (normal : -1021 ≤ totalExponent n e) :
    IsRounded sign (totalExponent n e - 53) (n * 2 ^ e) (UnpackedFloat.round .binary64 sign n e) := by
  have target : Format.binary64.targetExponent (totalExponent n e) = max (totalExponent n e - 53) (-1074) := rfl
  unfold UnpackedFloat.round decreaseExponent
  simp only [target]
  obtain ⟨k, shift⟩ : ∃ k, (e - max (totalExponent n e - 53) (-1074)).toNat = k := ⟨_, rfl⟩
  rw [shift]
  -- lowering the exponent leaves the number and its total as they are
  have value : ((n <<< k : Nat) : ℚ) * 2 ^ (e - k) = n * 2 ^ e := by
    rw [shiftLeft_mul_zpow, Int.sub_add_cancel]
  have total : totalExponent (n <<< k) (e - k) = totalExponent n e := by
    unfold totalExponent
    rw [log2_shiftLeft notZero]
    push_cast
    omega
  have notZero' : n <<< k ≠ 0 := by
    rw [Nat.shiftLeft_eq]
    positivity
  have rounded := isRounded_of_digits sign (n := n <<< k) (e := e - k) notZero' (by omega) (by omega)
  rwa [total, value] at rounded

/-! ## Sums -/

lemma exists_multiple (n : Nat) {t : Int} (small : t ≤ 0) : ∃ k : Nat, (k : ℚ) * 2 ^ t = n := by
  obtain ⟨j, rfl⟩ : ∃ j : Nat, t = -j := ⟨(-t).toNat, by omega⟩
  refine ⟨n * 2 ^ j, ?_⟩
  rw [zpow_neg, zpow_natCast]
  push_cast
  field_simp

/-- A whole number up to 2 ^ 53 is the value of the double nearest to it. -/
lemma exists_parts_ofNat {n : Nat} (small : n ≤ 2 ^ 53) :
    ∃ m q, parts? (ofInt n) = some ⟨false, m, q⟩ ∧ (m : ℚ) * 2 ^ q = n := by
  have own : ((n : Nat) : ℚ) / (1 : Nat) = n := by rw [Nat.cast_one, div_one]
  obtain ⟨k, multiple⟩ : ∃ k : Nat, (k : ℚ) * 2 ^ gridExponent n 1 = n := by
    rcases small.lt_or_eq with less | rfl
    · refine exists_multiple n ?_
      unfold gridExponent
      by_cases zero : n = 0
      · subst zero
        decide
      · have := log2_lt_of_lt (by decide) less
        rw [floorLog2_one zero]
        omega
    · refine ⟨2 ^ 52, ?_⟩
      rw [show gridExponent (2 ^ 53) 1 = 1 by decide +kernel]
      norm_num
  have exact : gridMantissa n 1 = k :=
    le_antisymm (gridMantissa_le Nat.one_pos (by rw [own, multiple]))
      (le_gridMantissa Nat.one_pos (by rw [own, multiple]))
  have digits : n.log2 ≤ 11 + 52 := Nat.le_of_lt_succ (log2_lt_of_lt (by decide) (by omega))
  have within : fractionBits n 1 < infinityBits := (fractionBits_le Nat.one_pos digits).trans_lt (by decide)
  obtain ⟨m, q, parts, value⟩ := exists_parts_ofFraction false n Nat.one_pos within
  refine ⟨m, q, ?_, by rw [value, exact, multiple]⟩
  rw [← parts]
  rfl

lemma isBetween_ofInt {n : Nat} (small : n ≤ 2 ^ 53) : IsBetween n n (ofInt n) := by
  obtain ⟨m, q, parts, value⟩ := exists_parts_ofNat small
  refine ⟨_, parts, ?_⟩
  rw [Parts.toRat_eq, if_neg Bool.false_ne_true, value]
  exact ⟨le_rfl, le_rfl⟩

/-- What is rounded between a whole number and the next stays there. -/
lemma isBetween_round {h n : Nat} {e : Int} (pos : 0 < h) (small : h < 2 ^ 53) (least : (h : ℚ) ≤ n * 2 ^ e)
    (most : (n : ℚ) * 2 ^ e ≤ h + 1) :
    IsBetween h (h + 1) (Float.ofModel (Float.Model.pack (UnpackedFloat.round .binary64 .positive n e))) := by
  have one : (1 : ℚ) ≤ h := by exact_mod_cast pos
  have last : (h : ℚ) + 1 ≤ 2 ^ 53 := by exact_mod_cast small
  have notZero : n ≠ 0 := by
    rintro rfl
    rw [Nat.cast_zero, zero_mul] at least
    linarith
  have below := mul_zpow_lt n e
  have above := zpow_le_mul notZero e
  have digits : 0 < totalExponent n e := by
    rw [← zpow_lt_zpow_iff_right₀ (one_lt_two (α := ℚ)), zpow_zero]
    linarith
  have digits' : totalExponent n e - 1 ≤ 53 := by
    rw [← zpow_le_zpow_iff_right₀ (one_lt_two (α := ℚ))]
    exact above.trans (most.trans last)
  have rounded := isRounded_round .positive notZero (e := e) (by omega)
  cases value : UnpackedFloat.round .binary64 .positive n e with
  | finite s m e' positive =>
    rw [value] at rounded
    obtain ⟨rfl, ⟨full, short⟩, ⟨low, high⟩, multiple⟩ := rounded
    have parts : parts? (Float.ofModel (Float.Model.pack (.finite (signOf false) m e' positive))) = some ⟨false, m, e'⟩ :=
      parts?_pack full short (by omega) (by omega)
    refine ⟨_, parts, ?_⟩
    rw [Parts.toRat_eq, if_neg Bool.false_ne_true]
    dsimp only
    by_cases few : totalExponent n e ≤ 53
    · obtain ⟨k, same⟩ := exists_multiple h (t := totalExponent n e - 53) (by omega)
      obtain ⟨k', same'⟩ := exists_multiple (h + 1) (t := totalExponent n e - 53) (by omega)
      have lower := (multiple k).1
      have upper := (multiple k').2
      rw [same] at lower
      rw [same', Nat.cast_add_one] at upper
      exact ⟨lower least, upper most⟩
    -- with a digit more the sum is 2 ^ 53, and exact
    · have total : totalExponent n e = 54 := by omega
      have step : ((2 ^ 52 : Nat) : ℚ) * 2 ^ (totalExponent n e - 53) = 2 ^ 53 := by
        rw [total]
        norm_num
      have size : (2 : ℚ) ^ 53 ≤ n * 2 ^ e := by
        rw [total] at above
        exact above
      have lower := (multiple (2 ^ 52)).1
      have upper := (multiple (2 ^ 52)).2
      rw [step] at lower upper
      have lower := lower size
      have upper := upper (most.trans last)
      constructor <;> linarith
  | _ =>
    rw [value] at rounded
    exact rounded.elim

/-- A whole number to which either 0 is added stays as it is. -/
lemma ofInt_add_of_zero {h : Nat} (small : h ≤ 2 ^ 53) {y : Float} {sign : Sign}
    (zero : y.toModel.unpack = .zero sign) : ofInt h + y = ofInt h := by
  obtain ⟨m, q, parts, -⟩ := exists_parts_ofNat small
  have same : UnpackedFloat.add .binary64 (ofInt h).toModel.unpack y.toModel.unpack = (ofInt h).toModel.unpack := by
    rw [zero]
    rcases unpack_of_parts? parts with ⟨-, unpacked⟩ | ⟨positive, unpacked⟩ <;> rw [unpacked]
    · cases sign <;> rfl
    · rfl
  refine congrArg Float.ofModel ?_
  show Float.Model.pack (UnpackedFloat.add .binary64 (ofInt h).toModel.unpack y.toModel.unpack) = (ofInt h).toModel
  rw [same, pack_unpack]

/-- A double between 0 and 1 that is added to a whole number below 2 ^ 53 brings it no further than to the next. -/
theorem isBetween_ofInt_add {h : Nat} (small : h < 2 ^ 53) {y : Float} (fraction : IsBetween 0 1 y) :
    IsBetween h (h + 1) (ofInt h + y) := by
  obtain ⟨m, q, parts, value⟩ := exists_parts_ofNat small.le
  obtain ⟨⟨negative, m', q'⟩, parts', nonneg, le⟩ := fraction
  rcases unpack_of_parts? parts' with ⟨-, zero⟩ | ⟨positive', unpacked'⟩
  · rw [ofInt_add_of_zero small.le zero]
    exact (isBetween_ofInt small.le).mono le_rfl (le_add_of_nonneg_right zero_le_one)
  -- a fraction that is not 0 has no minus sign
  have size : (0 : ℚ) < m' * 2 ^ q' := by
    have : (0 : ℚ) < m' := by exact_mod_cast positive'
    positivity
  rw [Parts.toRat_eq] at nonneg le
  obtain rfl : negative = false := by
    cases negative
    · rfl
    · rw [if_pos rfl] at nonneg
      linarith
  rw [if_neg Bool.false_ne_true] at nonneg le
  rcases unpack_of_parts? parts with ⟨none, zero⟩ | ⟨positive, unpacked⟩
  · have noneBelow : h = 0 := by
      have : (h : ℚ) = 0 := by rw [← value, show m = 0 from none, Nat.cast_zero, zero_mul]
      exact_mod_cast this
    have same : ofInt h + y = y := by
      refine congrArg Float.ofModel ?_
      show Float.Model.pack (UnpackedFloat.add .binary64 (ofInt h).toModel.unpack y.toModel.unpack) = y.toModel
      rw [zero, unpacked']
      show Float.Model.pack (.finite _ _ _ positive') = _
      rw [← unpacked', pack_unpack]
    rw [same, noneBelow]
    refine ⟨_, parts', ?_⟩
    rw [Parts.toRat_eq, if_neg Bool.false_ne_true, Nat.cast_zero, zero_add]
    exact ⟨nonneg, le⟩
  · obtain ⟨n, sum, total⟩ := exists_add_eq_round .positive q q' positive positive'
    have pos : 0 < h := by
      have : (0 : ℚ) < h := by
        rw [← value]
        have : (0 : ℚ) < m := by exact_mod_cast positive
        positivity
      exact_mod_cast this
    have rounded : ofInt h + y = Float.ofModel (Float.Model.pack
        (UnpackedFloat.round .binary64 .positive n (min q q'))) := by
      rw [← sum]
      refine congrArg Float.ofModel ?_
      show Float.Model.pack (UnpackedFloat.add .binary64 (ofInt h).toModel.unpack y.toModel.unpack) = _
      rw [unpacked, unpacked']
      rfl
    rw [rounded]
    refine isBetween_round pos small ?_ ?_ <;> rw [total, value] <;> linarith

/-- A whole number to which 0 is added keeps its value. -/
theorem isBetween_ofInt_add_zero {h : Nat} (small : h ≤ 2 ^ 53) : IsBetween h h (ofInt h + ofRat 0) := by
  rw [ofInt_add_of_zero small (show (ofRat 0).toModel.unpack = .zero .positive from rfl)]
  exact isBetween_ofInt small

end ActivityReport.Number
