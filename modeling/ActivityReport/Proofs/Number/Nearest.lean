import ActivityReport.Proofs.Number.Finite

/-!
# The double nearest to a word

A whole number of up to 64 bits is rounded to 53 digits (`Number.nearest`). The double nearest to it has a word of full
length with its sign and this value (`Number.exists_unpack_ofInt`). What is lost by rounding two numbers whose sum is no
word is less than what would bring the sum of the values down to the words again (`Number.le_nearest_add_nearest`).
-/

namespace ActivityReport.Number

open Float.Model
open Float.Model.UnpackedFloat

/-! ## Rounded values -/

/-- The value of the double nearest to a natural number that is not too large. -/
def nearest (n : Nat) : Nat :=
  if n.log2 < 52 then n else roundDiv n (2 ^ (n.log2 - 52)) * 2 ^ (n.log2 - 52)

lemma div_le_roundDiv (n d : Nat) : n / d ≤ roundDiv n d := by
  unfold roundDiv
  dsimp only
  split <;> omega

lemma roundDiv_one (n : Nat) : roundDiv n 1 = n := by
  unfold roundDiv
  simp [Nat.mod_one]

/-- A multiple of 512 up to a number is not passed when the number is rounded, unless it is very large. -/
lemma le_nearest {k n : Nat} (le : 512 * k ≤ n) (small : 512 * k ≤ 2 ^ 62) : 512 * k ≤ nearest n := by
  unfold nearest
  split
  · exact le
  rename_i long
  have notZero : n ≠ 0 := by
    rintro rfl
    exact long (by decide)
  generalize same : n.log2 - 52 = q
  have digits : 2 ^ (52 + q) ≤ n := by
    rw [← same, Nat.add_sub_cancel' (not_lt.1 long)]
    exact Nat.log2_self_le notZero
  have floor := Nat.mul_le_mul_right (2 ^ q) (div_le_roundDiv n (2 ^ q))
  refine le_trans ?_ floor
  by_cases few : q ≤ 9
  -- below a multiple of the power of two no digits are cut off
  · have factor : 512 = 2 ^ (9 - q) * 2 ^ q := by
      rw [← pow_add, Nat.sub_add_cancel few]
      rfl
    have split : 512 * k = 2 ^ (9 - q) * k * 2 ^ q := by
      conv_lhs => rw [factor]
      rw [Nat.mul_right_comm]
    rw [split] at le ⊢
    exact Nat.mul_le_mul_right _ ((Nat.le_div_iff_mul_le (Nat.two_pow_pos q)).2 le)
  · calc 512 * k ≤ 2 ^ 52 * 2 ^ 10 := small
      _ ≤ n / 2 ^ q * 2 ^ q := by
        refine Nat.mul_le_mul ?_ (Nat.pow_le_pow_right Nat.two_pos (by omega))
        rw [Nat.le_div_iff_mul_le (Nat.two_pow_pos q), ← pow_add]
        exact digits

/-- A large word is rounded to a multiple of 512, and by no more than that. -/
lemma exists_nearest_eq {n : Nat} (large : 2 ^ 62 ≤ n) (word : n ≤ 2 ^ 63) :
    ∃ k, nearest n = 512 * k ∧ n ≤ 512 * k + 512 := by
  have notZero : n ≠ 0 := by omega
  have digits : n.log2 = 62 ∨ n = 2 ^ 63 := by
    rcases word.lt_or_eq with less | same
    · refine Or.inl (le_antisymm (Nat.le_of_lt_succ ((Nat.log2_lt notZero).2 less)) ?_)
      exact (Nat.le_log2 notZero).2 large
    · exact Or.inr same
  rcases digits with digits | rfl
  · obtain ⟨close, -⟩ := roundDiv_bounds n 1024 (by decide)
    refine ⟨2 * roundDiv n 1024, ?_, by omega⟩
    rw [nearest, digits, if_neg (by decide)]
    show roundDiv n 1024 * 1024 = _
    omega
  · exact ⟨2 ^ 54, by decide +kernel, by decide⟩

/-- Words whose sum is no word have rounded values whose sum falls short of that by 512 at most. -/
lemma le_nearest_add_nearest {a b : Nat} (word : a ≤ 2 ^ 63) (word' : b ≤ 2 ^ 63) (beyond : 2 ^ 63 ≤ a + b) :
    2 ^ 63 ≤ nearest a + nearest b + 512 := by
  wlog le : b ≤ a generalizing a b
  · have := this word' word (by omega) (by omega)
    omega
  obtain ⟨k, value, close⟩ := exists_nearest_eq (n := a) (by omega) word
  have least := le_nearest (k := 2 ^ 53) (n := a) (by omega) (by decide)
  have rest := le_nearest (k := 2 ^ 54 - 1 - k) (n := b) (by omega) (by omega)
  omega

/-! ## Words of doubles -/

/-- A number keeps its size when its mantissa is shifted to a lower exponent. -/
lemma shiftLeft_mul_zpow (m k : Nat) (e : Int) : ((m <<< k : Nat) : ℚ) * 2 ^ e = m * 2 ^ (e + k) := by
  rw [Nat.shiftLeft_eq, zpow_add₀ two_ne_zero, zpow_natCast]
  push_cast
  ring

/-- The mantissa and the exponent of the double nearest to a natural number, which has the value that the number is
rounded to. -/
lemma exists_mantissa {n : Nat} (notZero : n ≠ 0) (size : n.log2 ≤ 63) :
    ∃ (m : Nat) (q : Int), fractionBits n 1 = min ((q + 1075).toNat * hiddenBit + (m - hiddenBit)) infinityBits ∧
      2 ^ 52 ≤ m ∧ m ≤ 2 ^ 53 ∧ (-52 ≤ q ∧ q ≤ 11) ∧ (m : ℚ) * 2 ^ q = nearest n := by
  have exponent : gridExponent n 1 = n.log2 - 52 := by
    rw [gridExponent, floorLog2_one notZero]
    omega
  have full := two_pow_le_gridMantissa notZero Nat.one_pos (by omega)
  have short := gridMantissa_le_two_pow notZero Nat.one_pos
  refine ⟨gridMantissa n 1, gridExponent n 1, ?_, full, short, by omega, ?_⟩
  · rw [fractionBits_eq notZero, if_neg (by unfold hiddenBit; omega)]
  unfold gridMantissa nearest
  rw [exponent]
  by_cases few : n.log2 < 52
  -- a short number is brought to full length
  · obtain ⟨k, digits⟩ : ∃ k, 52 = n.log2 + k := ⟨52 - n.log2, by omega⟩
    rw [if_pos few, if_neg (show ¬ ((n.log2 : Int) - 52 ≥ 0) by omega), show (-((n.log2 : Int) - 52)).toNat = k by omega,
      roundDiv_one, shiftLeft_mul_zpow, show (n.log2 : Int) - 52 + k = 0 by omega, zpow_zero, mul_one]
  -- a long one is cut to it
  · obtain ⟨k, digits⟩ : ∃ k, n.log2 = 52 + k := ⟨n.log2 - 52, by omega⟩
    rw [if_neg few, if_pos (show (n.log2 : Int) - 52 ≥ 0 by omega), show ((n.log2 : Int) - 52).toNat = k by omega,
      show n.log2 - 52 = k by omega, Nat.one_shiftLeft, show (n.log2 : Int) - 52 = k by omega, zpow_natCast]
    push_cast
    rfl

/-- The fields of the double nearest to a natural number, which has the value that the number is rounded to. -/
lemma exists_fields {n : Nat} (notZero : n ≠ 0) (word : n ≤ 2 ^ 63) :
    ∃ f t : Nat, 0 < f ∧ f ≤ 1087 ∧ t < hiddenBit ∧ fractionBits n 1 = f * hiddenBit + t ∧
      ((t + hiddenBit : Nat) : ℚ) * 2 ^ ((f : Int) - 1075) = nearest n := by
  have size : n.log2 ≤ 63 := Nat.le_of_lt_succ (log2_lt_of_lt (by decide) (by omega))
  obtain ⟨m, q, bits, full, short, inside, value⟩ := exists_mantissa notZero size
  unfold hiddenBit infinityBits at *
  rcases short.lt_or_eq with less | rfl
  · refine ⟨(q + 1075).toNat, m - 2 ^ 52, by omega, by omega, by omega, by omega, ?_⟩
    rw [← value]
    congr 2 <;> omega
  · refine ⟨(q + 1075).toNat + 1, 0, by omega, by omega, by omega, by omega, ?_⟩
    rw [← value, show (((q + 1075).toNat + 1 : Nat) : Int) - 1075 = q + 1 by omega, zpow_add₀ two_ne_zero]
    push_cast
    ring

/-- The sign with which a double is unpacked. -/
def signOf (negative : Bool) : Sign := if negative then .negative else .positive

/-- The word of a double of full length: its sign, its exponent and the mantissa without its first digit. -/
def normalBits (negative : Bool) (f t : Nat) : Nat := signBit negative + f * hiddenBit + t

lemma toNat_unpackSign (b : BitVec 64) : (@unpackSign .binary64 b).toNat = b.toNat / 2 ^ 63 := by
  unfold unpackSign
  simp only [BitVec.toNat_cast, BitVec.extractLsb_toNat, Nat.shiftRight_eq_div_pow]
  have := b.isLt
  show b.toNat / 2 ^ 63 % 2 = _
  omega

lemma ofBitVec_unpackSign (b : BitVec 64) :
    Sign.ofBitVec (@unpackSign .binary64 b) = signOf (b.toNat ≥ signBit true) := by
  have value := toNat_unpackSign b
  have word := b.isLt
  unfold Sign.ofBitVec signOf
  by_cases negative : b.toNat ≥ signBit true
  · have one : b.toNat / 2 ^ 63 = 1 := by
      unfold signBit at negative
      simp only [if_true] at negative
      omega
    rw [decide_eq_true negative, if_pos rfl, if_neg]
    intro zero
    rw [zero, one] at value
    cases value
  · have zero : b.toNat / 2 ^ 63 = 0 := by
      unfold signBit at negative
      simp only [if_true] at negative
      omega
    rw [zero] at value
    rw [decide_eq_false negative, if_neg Bool.false_ne_true, if_pos (BitVec.eq_of_toNat_eq value)]

/-- A double whose exponent is neither the least nor the greatest is unpacked with its first digit. -/
lemma unpack_of_field {x : Float} (normal : 0 < x.toBits.toNat / hiddenBit % 2048)
    (finite : x.toBits.toNat / hiddenBit % 2048 < 2047) : ∃ positive, x.toModel.unpack =
      .finite (signOf (x.toBits.toNat ≥ signBit true)) (x.toBits.toNat % hiddenBit + hiddenBit)
        ((x.toBits.toNat / hiddenBit % 2048 : Nat) - 1075) positive := by
  obtain ⟨exponent, mantissa⟩ := toNat_unpack x.toModel.toBits.toBitVec
  have sign := ofBitVec_unpackSign x.toModel.toBits.toBitVec
  have bias : ((Format.exponentBias .binary64 : Nat) : Int) + (Format.mantissaBitsWithoutImplicit .binary64 : Nat) =
    1075 := rfl
  have digits : (1#1 ++ @unpackMantissa .binary64 x.toModel.toBits.toBitVec).toNat =
      x.toModel.toBits.toBitVec.toNat % hiddenBit + hiddenBit := by
    rw [BitVec.toNat_append, ← Nat.shiftLeft_add_eq_or_of_lt (BitVec.isLt _), mantissa]
    show 1 <<< 52 + _ = _
    unfold hiddenBit
    omega
  have field : (@unpackExponent .binary64 x.toModel.toBits.toBitVec).toNat = x.toBits.toNat / hiddenBit % 2048 :=
    exponent
  unfold Float.Model.unpack UnpackedFloat.unpack
  dsimp only
  rw [if_neg (fun ones => by rw [ones] at field; exact absurd field (by show 2047 ≠ _; omega)),
    if_neg (fun zero => by rw [zero] at field; exact absurd field (by show 0 ≠ _; omega))]
  refine ⟨by unfold hiddenBit; omega, ?_⟩
  simp only [sign, digits, bias, exponent]
  rfl

section Normal

variable {x : Float} {negative : Bool} {f t : Nat}

/-- The fields of such a word. -/
lemma fields_of_normal (word : x.toBits.toNat = normalBits negative f t) (finite : f < 2047) (short : t < hiddenBit) :
    x.toBits.toNat / hiddenBit % 2048 = f ∧ x.toBits.toNat % hiddenBit = t ∧
      decide (x.toBits.toNat ≥ signBit true) = negative := by
  rw [word]
  unfold normalBits signBit hiddenBit at *
  cases negative <;> simp <;> omega

/-- The parts of a double of full length. -/
lemma parts?_of_normal (word : x.toBits.toNat = normalBits negative f t) (normal : 0 < f) (finite : f < 2047)
    (short : t < hiddenBit) : parts? x = some ⟨negative, t + hiddenBit, (f : Int) - 1075⟩ := by
  obtain ⟨exponent, mantissa, sign⟩ := fields_of_normal word finite short
  unfold parts?
  simp only [exponent, mantissa, sign]
  rw [if_neg (by omega), if_neg (by omega)]

/-- A double of full length is unpacked to its parts. -/
lemma unpack_of_normal (word : x.toBits.toNat = normalBits negative f t) (normal : 0 < f) (finite : f < 2047)
    (short : t < hiddenBit) : ∃ positive, x.toModel.unpack =
      .finite (signOf negative) (t + hiddenBit) ((f : Int) - 1075) positive := by
  obtain ⟨exponent, mantissa, sign⟩ := fields_of_normal word finite short
  obtain ⟨positive, unpacked⟩ := unpack_of_field (x := x) (by omega) (by omega)
  refine ⟨by unfold hiddenBit; omega, ?_⟩
  simp only [unpacked, exponent, mantissa, sign]

/-- What is packed with a mantissa of full length has the word of its parts. -/
lemma toNat_pack_of_normal {m : Nat} {positive : 0 < m} (mantissa : m = t + hiddenBit) (short : t < hiddenBit)
    (normal : 0 < f) (finite : f < 2047) :
    (Float.ofModel (Float.Model.pack (.finite (signOf negative) m ((f : Int) - 1075) positive))).toBits.toNat =
      normalBits negative f t := by
  have biased : (f : Int) - 1075 + (Format.exponentBias .binary64 : Nat) +
      (Format.mantissaBitsWithoutImplicit .binary64 : Nat) = f := by
    rw [Int.add_assoc]
    show (f : Int) - 1075 + 1075 = f
    omega
  have length : m.log2 + 1 = Format.mantissaBits .binary64 := by
    have : m.log2 = 52 := by
      unfold hiddenBit at *
      exact le_antisymm (Nat.le_of_lt_succ (log2_lt_of_lt (by decide) (by omega))) ((Nat.le_log2 (by omega)).2 (by omega))
    rw [this]
    rfl
  have rest : m % 2 ^ 52 = t := by
    unfold hiddenBit at *
    omega
  have exponent : f % 2 ^ 11 = f := Nat.mod_eq_of_lt (by omega)
  have sign : (signOf negative).toBitVec.toNat = if negative then 1 else 0 := by cases negative <;> rfl
  show (UnpackedFloat.pack .binary64 (.finite (signOf negative) m ((f : Int) - 1075) positive)).toNat = _
  unfold UnpackedFloat.pack
  simp only [biased, Int.toNat_natCast]
  rw [if_neg (show ¬ 2 ^ 11 ≤ f + 1 by omega), if_pos length]
  unfold packComponents
  rw [BitVec.toNat_append, ← Nat.shiftLeft_add_eq_or_of_lt (BitVec.isLt _), BitVec.toNat_append,
    ← Nat.shiftLeft_add_eq_or_of_lt (BitVec.isLt _), BitVec.toNat_ofNat, BitVec.toNat_ofNat, sign]
  show ((if negative then 1 else 0) <<< 11 + f % 2 ^ 11) <<< 52 + m % 2 ^ 52 = _
  rw [rest, exponent]
  unfold normalBits signBit hiddenBit
  cases negative <;> simp <;> omega

end Normal

/-- What is packed with a mantissa of full length has its parts. -/
lemma parts?_pack {negative : Bool} {m : Nat} {e : Int} {positive : 0 < m} (full : 2 ^ 52 ≤ m) (short : m < 2 ^ 53)
    (least : -1074 ≤ e) (most : e ≤ 971) :
    parts? (Float.ofModel (Float.Model.pack (.finite (signOf negative) m e positive))) = some ⟨negative, m, e⟩ := by
  obtain ⟨f, rfl⟩ : ∃ f : Nat, e = (f : Int) - 1075 := ⟨(e + 1075).toNat, by omega⟩
  have mantissa : m = m - hiddenBit + hiddenBit := by unfold hiddenBit; omega
  have rest : m - hiddenBit < hiddenBit := by unfold hiddenBit; omega
  rw [parts?_of_normal (toNat_pack_of_normal mantissa rest (by omega) (by omega)) (by omega) (by omega) rest,
    ← mantissa]

/-- The double nearest to a word that is not 0 is of full length, with the sign and the value of the word. -/
lemma exists_unpack_ofInt {n : Int} (notZero : n ≠ 0) (fits : fitsWord n = true) : ∃ m e positive,
    (ofInt n).toModel.unpack = .finite (signOf (n < 0)) m e positive ∧ m < 2 ^ 53 ∧ e ≤ 12 ∧
      (m : ℚ) * 2 ^ e = nearest n.natAbs := by
  unfold fitsWord at fits
  simp only [Bool.and_eq_true, decide_eq_true_eq] at fits
  obtain ⟨f, t, normal, small, short, bits, value⟩ := exists_fields (n := n.natAbs) (by omega) (by omega)
  have word : (ofInt n).toBits.toNat = normalBits (n < 0) f t := by
    unfold ofInt ofFraction
    rw [bits, ← Nat.add_assoc]
    refine toNat_toBits_ofBits ?_ ?_ <;> unfold signBit hiddenBit at * <;> split <;> omega
  obtain ⟨positive, unpacked⟩ := unpack_of_normal word normal (by omega) short
  exact ⟨_, _, positive, unpacked, by unfold hiddenBit at *; omega, by omega, value⟩

end ActivityReport.Number
