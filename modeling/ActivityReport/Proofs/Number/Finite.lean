import ActivityReport.Ladder.Level
import ActivityReport.Number.Amount
import ActivityReport.Proofs.Number.Grid
import Mathlib

/-!
# Finite doubles

The double nearest to a fraction that lies within the doubles is finite, and has the value that the fraction is rounded
to (`Number.exists_parts_ofFraction`). A double that is the sum of two finite ones of bounded size is finite again and not
much larger (`Number.exists_parts_add`). So a total of two words can be cut to a whole number
(`Amount.exists_toWhole_add`).
-/

namespace ActivityReport.Number

open Float.Model
open Float.Model.UnpackedFloat

/-! ## Binary digits -/

lemma log2_lt_of_lt {n k : Nat} (pos : 0 < k) (lt : n < 2 ^ k) : n.log2 < k := by
  by_cases zero : n = 0
  · rw [zero]
    exact pos
  · exact (Nat.log2_lt zero).2 lt

lemma log2_shiftLeft {n : Nat} (pos : n ≠ 0) (k : Nat) : (n <<< k).log2 = n.log2 + k := by
  induction k with
  | zero => rfl
  | succ k ih =>
    rw [Nat.shiftLeft_succ, Nat.log2_two_mul (by rw [Nat.shiftLeft_eq]; positivity), ih, Nat.add_assoc]

/-! ## Rounding -/

/-- Whether an unpacked double is zero or has a short mantissa and an exponent up to some number. -/
def IsBounded (e : Int) : UnpackedFloat → Prop
  | .zero _ => True
  | .finite _ m e' _ => m < 2 ^ 53 ∧ e' ≤ e
  | _ => False

/-- A mantissa that is shifted is divided. -/
lemma mantissa_shiftRight (em : ExtendedMantissa) (k : Nat) : (em >>> k).mantissa = em.mantissa / 2 ^ k := by
  show (Nat.repeat ExtendedMantissa.shiftRightOne k em).mantissa = _
  induction k with
  | zero => rw [pow_zero, Nat.div_one]; rfl
  | succ k ih =>
    show (Nat.repeat ExtendedMantissa.shiftRightOne k em).mantissa / 2 = _
    rw [ih, Nat.div_div_eq_div_mul, pow_succ]

lemma mantissa_ofMantissaAndAccuracy (m : Nat) (accuracy : Accuracy) :
    (ExtendedMantissa.ofMantissaAndAccuracy m accuracy).mantissa = m := by
  cases accuracy with
  | exact => rfl
  | inexact order => cases order <;> rfl

/-- Rounding adds one at most. -/
lemma roundedMantissa_le (em : ExtendedMantissa) : em.roundedMantissa ≤ em.mantissa + 1 := by
  obtain ⟨m, round, sticky⟩ := em
  cases round <;> cases sticky <;>
    simp only [ExtendedMantissa.roundedMantissa, ExtendedMantissa.accuracy, Accuracy.roundToNearestEven] <;> omega

/-- What is shifted to its exponent is short, and the exponent is raised no further than need be. -/
lemma shiftToTargetExponent_le (m : Nat) (e : Int) (accuracy : Accuracy) :
    (shiftToTargetExponent .binary64 m e accuracy).1.mantissa < 2 ^ 53 ∧
      (shiftToTargetExponent .binary64 m e accuracy).2 = max e (max (totalExponent m e - 53) (-1074)) := by
  have target : Format.binary64.targetExponent (totalExponent m e) = max (totalExponent m e - 53) (-1074) := rfl
  unfold shiftToTargetExponent shiftToExponent
  simp only [target, mantissa_shiftRight, mantissa_ofMantissaAndAccuracy]
  refine ⟨(Nat.div_lt_iff_lt_mul (Nat.two_pow_pos _)).2 ?_, by omega⟩
  rw [← pow_add]
  refine Nat.lt_log2_self.trans_le (Nat.pow_le_pow_right Nat.two_pos ?_)
  unfold totalExponent
  omega

/-- Rounding raises the exponent by one more step at most, when the mantissa overflows. -/
lemma isBounded_roundWithAccuracy (sign : Sign) (m : Nat) {e bound : Int} (accuracy : Accuracy) (low : e ≤ bound)
    (total : totalExponent m e ≤ bound + 53) (normal : -1074 ≤ bound) :
    IsBounded (bound + 1) (roundWithAccuracy .binary64 sign m e accuracy) := by
  obtain ⟨short, first⟩ := shiftToTargetExponent_le m e accuracy
  obtain ⟨short', second⟩ :=
    shiftToTargetExponent_le (shiftToTargetExponent .binary64 m e accuracy).1.roundedMantissa
      (shiftToTargetExponent .binary64 m e accuracy).2 .exact
  have rounded : (shiftToTargetExponent .binary64 m e accuracy).1.roundedMantissa.log2 ≤ 53 := by
    have le := roundedMantissa_le (shiftToTargetExponent .binary64 m e accuracy).1
    refine Nat.le_of_lt_succ (log2_lt_of_lt (by decide) ?_)
    omega
  unfold roundWithAccuracy
  dsimp only
  split
  · exact trivial
  · refine ⟨short', ?_⟩
    rw [second]
    unfold totalExponent at *
    omega

/-- A number is rounded to an exponent that its size asks for. -/
lemma isBounded_round (sign : Sign) (m : Nat) (e : Int) {bound : Int} (total : totalExponent m e ≤ bound + 53)
    (normal : -1074 ≤ bound) : IsBounded (bound + 1) (UnpackedFloat.round .binary64 sign m e) := by
  have target : Format.binary64.targetExponent (totalExponent m e) = max (totalExponent m e - 53) (-1074) := rfl
  unfold UnpackedFloat.round decreaseExponent
  simp only [target]
  refine isBounded_roundWithAccuracy sign _ .exact (by omega) ?_ normal
  generalize (e - max (totalExponent m e - 53) (-1074)).toNat = k
  -- lowering the exponent leaves the total as it is
  by_cases zero : m = 0
  · subst zero
    unfold totalExponent at total ⊢
    rw [Nat.zero_shiftLeft]
    omega
  · unfold totalExponent at total ⊢
    rw [log2_shiftLeft zero]
    push_cast
    omega

lemma IsBounded.mono {u : UnpackedFloat} {e e' : Int} (h : IsBounded e u) (le : e ≤ e') : IsBounded e' u := by
  cases u with
  | finite s m exponent => exact ⟨h.1, h.2.trans le⟩
  | zero => trivial
  | _ => exact h.elim

/-- A whole multiple of a unit is rounded to an exponent that its size asks for. -/
lemma isBounded_normalize {n low e : Int} (small : n.natAbs < 2 ^ (54 + (e - low).toNat)) (le : low ≤ e)
    (normal : -1075 ≤ e) : IsBounded (e + 2) (normalize .binary64 n low .positive) := by
  have rounded : ∀ sign k, k < 2 ^ (54 + (e - low).toNat) → IsBounded (e + 2) (UnpackedFloat.round .binary64 sign k low) := by
    intro sign k less
    have total : totalExponent k low ≤ e + 1 + 53 := by
      unfold totalExponent
      have := log2_lt_of_lt (by omega) less
      omega
    exact (show e + 1 + 1 = e + 2 by omega) ▸ isBounded_round sign k low total (by omega)
  unfold UnpackedFloat.normalize
  split
  · exact rounded _ _ (by omega)
  · trivial
  · exact rounded _ _ (by omega)

/-- The sum of two bounded doubles is bounded. -/
lemma IsBounded.add {u v : UnpackedFloat} {e : Int} (hu : IsBounded e u) (hv : IsBounded e v) (normal : -1075 ≤ e) :
    IsBounded (e + 2) (UnpackedFloat.add .binary64 u v) := by
  cases u with
  | notANumber | infinity => exact hu.elim
  | zero s =>
    cases v with
    | notANumber | infinity => exact hv.elim
    | zero s' =>
      unfold UnpackedFloat.add
      dsimp only
      split <;> trivial
    | finite => exact hv.mono (by omega)
  | finite s₁ m₁ e₁ =>
    cases v with
    | notANumber | infinity => exact hv.elim
    | zero => exact hu.mono (by omega)
    | finite s₂ m₂ e₂ =>
      obtain ⟨short₁, low₁⟩ := hu
      obtain ⟨short₂, low₂⟩ := hv
      -- both mantissas are brought to the lesser exponent
      have shifted : ∀ {m : Nat} {e' : Int}, m < 2 ^ 53 → e' ≤ e →
          m <<< (e' - min e₁ e₂).toNat < 2 ^ (53 + (e - min e₁ e₂).toNat) := by
        intro m e' short low
        rw [Nat.shiftLeft_eq, pow_add]
        exact Nat.mul_lt_mul_of_lt_of_le short (Nat.pow_le_pow_right Nat.two_pos (by omega)) (Nat.two_pow_pos _)
      have first := shifted short₁ low₁
      have second := shifted short₂ low₂
      have power : (2 : Nat) ^ (54 + (e - min e₁ e₂).toNat) = 2 * 2 ^ (53 + (e - min e₁ e₂).toNat) := by
        rw [← Nat.pow_succ', Nat.succ_eq_add_one, show 53 + (e - min e₁ e₂).toNat + 1 = 54 + (e - min e₁ e₂).toNat by omega]
      refine isBounded_normalize ?_ (by omega) normal
      rw [power]
      generalize m₁ <<< (e₁ - min e₁ e₂).toNat = n₁ at first ⊢
      generalize m₂ <<< (e₂ - min e₁ e₂).toNat = n₂ at second ⊢
      cases s₁ <;> cases s₂ <;> simp only [Sign.apply] <;> omega

/-! ## Words -/

/-- The fields of the word of a double, as whole numbers. -/
lemma toNat_unpack (b : BitVec 64) :
    (@unpackExponent .binary64 b).toNat = b.toNat / hiddenBit % 2048 ∧
      (@unpackMantissa .binary64 b).toNat = b.toNat % hiddenBit := by
  unfold unpackExponent unpackMantissa
  simp only [BitVec.toNat_cast, BitVec.extractLsb_toNat, Nat.shiftRight_eq_div_pow]
  exact ⟨rfl, by rw [pow_zero, Nat.div_one]; rfl⟩

/-- The parts of a double are read from its word. -/
lemma parts?_eq_some {x : Float} {c : Nat} (field : x.toBits.toNat / hiddenBit % 2048 = c) (finite : c < 2047) :
    ∃ p, parts? x = some p ∧ p.mantissa < 2 ^ 53 ∧ p.exponent = max (c : Int) 1 - 1075 := by
  have small : x.toBits.toNat % hiddenBit < hiddenBit := Nat.mod_lt _ (by decide)
  unfold hiddenBit at small
  unfold parts?
  simp only [field, if_neg (show c ≠ 2047 by omega)]
  split
  · refine ⟨_, rfl, ?_, ?_⟩
    · simp only [hiddenBit]
      omega
    · simp only
      omega
  · refine ⟨_, rfl, ?_, ?_⟩
    · simp only [hiddenBit]
      omega
    · simp only
      omega

/-- A double with parts is bounded by the exponent of its parts. -/
lemma isBounded_unpack {x : Float} {p : Parts} (h : parts? x = some p) : IsBounded p.exponent x.toModel.unpack := by
  obtain ⟨c, field⟩ : ∃ c, x.toBits.toNat / hiddenBit % 2048 = c := ⟨_, rfl⟩
  have exponent : (@unpackExponent .binary64 x.toModel.toBits.toBitVec).toNat = c := (toNat_unpack _).1.trans field
  have finite : c ≠ 2047 := by
    rintro rfl
    unfold parts? at h
    simp only [field, if_true] at h
    cases h
  have inside : c < 2048 := field ▸ Nat.mod_lt _ (by decide)
  obtain ⟨p', same, -, at'⟩ := parts?_eq_some field (by omega)
  obtain rfl : p = p' := Option.some.inj (h.symm.trans same)
  unfold Float.Model.unpack UnpackedFloat.unpack
  dsimp only
  have short : (@unpackMantissa .binary64 x.toModel.toBits.toBitVec).toNat < 2 ^ 52 := BitVec.isLt _
  have bias : ((Format.exponentBias .binary64 : Nat) : Int) + (Format.mantissaBitsWithoutImplicit .binary64 : Nat) =
    1075 := rfl
  rw [if_neg (fun ones => finite (by rw [← exponent, ones]; rfl))]
  split
  · rename_i zero
    split
    · trivial
    · refine ⟨short.trans (by decide), ?_⟩
      rw [bias, at', exponent]
      have : c = 0 := by rw [← exponent, zero]; rfl
      omega
  · refine ⟨?_, ?_⟩
    · rw [BitVec.toNat_append, ← Nat.shiftLeft_add_eq_or_of_lt (BitVec.isLt _)]
      show 1 <<< 52 + _ < 2 ^ 53
      omega
    · rw [bias, at', exponent]
      omega

/-- A bounded double has parts. -/
lemma exists_parts {u : UnpackedFloat} {e : Int} (bounded : IsBounded e u) (le : e ≤ 970) (normal : -1074 ≤ e) :
    ∃ p, parts? (Float.ofModel (Float.Model.pack u)) = some p ∧ p.mantissa < 2 ^ 53 ∧ p.exponent ≤ e := by
  have components : ∃ (s : Sign) (f : BitVec 11) (t : BitVec 52), (f.toNat : Int) ≤ max 0 (e + 1075) ∧
      UnpackedFloat.pack .binary64 u = packComponents .binary64 s f t := by
    cases u with
    | notANumber | infinity => exact bounded.elim
    | zero s => exact ⟨s, 0#11, 0#52, by simp, rfl⟩
    | finite s m e' =>
      obtain ⟨-, low⟩ := bounded
      have biased : e' + (Format.exponentBias .binary64 : Nat) + (Format.mantissaBitsWithoutImplicit .binary64 : Nat) =
        e' + 1075 := by rw [Int.add_assoc]; rfl
      unfold UnpackedFloat.pack
      simp only [biased]
      rw [if_neg (show ¬ 2 ^ 11 ≤ (e' + 1075).toNat + 1 by omega)]
      split
      · refine ⟨s, BitVec.ofNat 11 (e' + 1075).toNat, BitVec.ofNat 52 m, ?_, rfl⟩
        rw [BitVec.toNat_ofNat, Nat.mod_eq_of_lt (by omega)]
        omega
      · exact ⟨s, 0#11, BitVec.ofNat 52 m, by simp, rfl⟩
  obtain ⟨s, f, t, low, packed⟩ := components
  have field : (Float.ofModel (Float.Model.pack u)).toBits.toNat / hiddenBit % 2048 = f.toNat := by
    show (UnpackedFloat.pack .binary64 u).toNat / hiddenBit % 2048 = f.toNat
    rw [packed, ← (toNat_unpack _).1, unpackExponent_packComponents]
  obtain ⟨p, parts, short, exponent⟩ := parts?_eq_some field (by omega)
  exact ⟨p, parts, short, by omega⟩

/-! ## Values -/

/-- The word that a double is made of is its own, unless it is not-a-number. -/
lemma toBits_ofBits {w : UInt64} (number : @isNaNBits .binary64 w.toBitVec = false) : (Float.ofBits w).toBits = w := by
  have same := @UnpackedFloat.pack_unpack .binary64 w.toBitVec (by decide)
  rw [number, if_neg Bool.false_ne_true] at same
  exact congrArg UInt64.ofBitVec same

/-- The word of a finite double is told by its bits. -/
lemma toNat_toBits_ofBits {bits : Nat} (word : bits < 2 ^ 64) (finite : bits / hiddenBit % 2048 ≠ 2047) :
    (Float.ofBits (UInt64.ofNat bits)).toBits.toNat = bits := by
  have own : (UInt64.ofNat bits).toNat = bits := UInt64.toNat_ofNat_of_lt word
  have number : @isNaNBits .binary64 (UInt64.ofNat bits).toBitVec = false := by
    refine decide_eq_false ?_
    rintro ⟨ones, -⟩
    have exponent := (toNat_unpack (UInt64.ofNat bits).toBitVec).1
    rw [UInt64.toNat_toBitVec, own, ones] at exponent
    exact finite exponent.symm
  rw [toBits_ofBits number, own]

/-- The parts of a double that is made of a sign and the bits of a finite size. -/
lemma parts?_ofBits (negative : Bool) {bits : Nat} (finite : bits < infinityBits) :
    parts? (Float.ofBits (UInt64.ofNat (signBit negative + bits))) =
      some (if bits < hiddenBit then ⟨negative, bits, -1074⟩
        else ⟨negative, bits % hiddenBit + hiddenBit, (bits / hiddenBit : Nat) - 1075⟩) := by
  have sign : signBit negative = 0 ∨ signBit negative = 2048 * hiddenBit := by cases negative <;> decide
  have field : (signBit negative + bits) / hiddenBit % 2048 = bits / hiddenBit ∧
      (signBit negative + bits) % hiddenBit = bits % hiddenBit ∧ bits / hiddenBit < 2047 ∧
      signBit negative + bits < 2 ^ 64 := by
    unfold infinityBits at finite
    rcases sign with zero | one <;> unfold hiddenBit at * <;> omega
  have side : decide (signBit negative + bits ≥ signBit true) = negative := by
    unfold infinityBits at finite
    cases negative <;> simp [signBit]
    omega
  have word := toNat_toBits_ofBits field.2.2.2 (by omega)
  unfold parts?
  simp only [word, field.1, field.2.1, side]
  rw [if_neg (by omega)]
  by_cases small : bits < hiddenBit
  · rw [if_pos (Nat.div_eq_of_lt small), if_pos small, Nat.mod_eq_of_lt small]
  · rw [if_neg (Nat.div_pos (not_lt.1 small) (by decide)).ne', if_neg small]

/-- The double nearest to a fraction that lies within the doubles has the value that the fraction is rounded to. -/
lemma exists_parts_ofFraction (negative : Bool) (n : Nat) {d : Nat} (pos : 0 < d) (within : fractionBits n d < infinityBits) :
    ∃ m q, parts? (ofFraction negative n d) = some ⟨negative, m, q⟩ ∧
      (m : ℚ) * 2 ^ q = gridMantissa n d * 2 ^ gridExponent n d := by
  have parts := parts?_ofBits negative within
  by_cases zero : n = 0
  · subst zero
    refine ⟨0, -1074, parts, ?_⟩
    rw [Nat.cast_zero, zero_mul, Nat.le_zero.1 (gridMantissa_le (k := 0) pos (by simp)), Nat.cast_zero, zero_mul]
  have most := gridMantissa_le_two_pow zero pos
  have full := two_pow_le_gridMantissa zero pos
  have least : -1074 ≤ gridExponent n d := le_max_right _ _
  have bits := fractionBits_eq zero d
  unfold ofFraction
  generalize fractionBits n d = w at *
  generalize gridExponent n d = q at *
  generalize gridMantissa n d = m at *
  rw [parts]
  by_cases short : m < hiddenBit
  · rw [if_pos short] at bits
    subst bits
    rw [if_pos short]
    unfold hiddenBit at short
    exact ⟨_, _, rfl, by rw [show q = -1074 by omega]⟩
  · rw [if_neg short, min_eq_left (by omega)] at bits
    rw [if_neg (by unfold hiddenBit at *; omega)]
    refine ⟨_, _, rfl, ?_⟩
    rcases most.lt_or_eq with less | rfl
    · rw [show w % hiddenBit + hiddenBit = m by unfold hiddenBit at *; omega,
        show ((w / hiddenBit : Nat) : Int) - 1075 = q by unfold hiddenBit at *; omega]
    -- with a digit too many the mantissa is halved, and the exponent raised
    · rw [show w % hiddenBit + hiddenBit = 2 ^ 52 by unfold hiddenBit at *; omega,
        show ((w / hiddenBit : Nat) : Int) - 1075 = 1 + q by unfold hiddenBit at *; omega, zpow_one_add₀ two_ne_zero]
      push_cast
      ring

lemma Parts.toRat_eq (p : Parts) :
    p.toRat = if p.negative then -(p.mantissa * 2 ^ p.exponent : ℚ) else p.mantissa * 2 ^ p.exponent := by
  have size : (if p.exponent ≥ 0 then mkRat (p.mantissa <<< p.exponent.toNat : Nat) 1
      else mkRat p.mantissa (1 <<< (-p.exponent).toNat)) = (p.mantissa : ℚ) * 2 ^ p.exponent := by
    split
    · obtain ⟨j, same⟩ : ∃ j : Nat, p.exponent = j := ⟨p.exponent.toNat, by omega⟩
      rw [same, Int.toNat_natCast, Nat.shiftLeft_eq, zpow_natCast, Rat.mkRat_one]
      push_cast
      rfl
    · obtain ⟨j, same⟩ : ∃ j : Nat, p.exponent = -j := ⟨(-p.exponent).toNat, by omega⟩
      rw [same, neg_neg, Int.toNat_natCast, Nat.one_shiftLeft, zpow_neg, zpow_natCast, Rat.mkRat_eq_div]
      push_cast
      rfl
  unfold toRat
  dsimp only
  rw [size]

/-- Whether a double is finite, and its value lies between two numbers. -/
def IsBetween (low high : ℚ) (x : Float) : Prop := ∃ p, parts? x = some p ∧ low ≤ p.toRat ∧ p.toRat ≤ high

lemma IsBetween.mono {low low' high high' : ℚ} {x : Float} (h : IsBetween low high x) (le : low' ≤ low)
    (le' : high ≤ high') : IsBetween low' high' x := by
  obtain ⟨p, parts, above, below⟩ := h
  exact ⟨p, parts, le.trans above, below.trans le'⟩

/-- The double nearest to a fraction between 0 and 1 lies there too. -/
theorem isBetween_ofRat {x : ℚ} (nonneg : 0 ≤ x) (le : x ≤ 1) : IsBetween 0 1 (ofRat x) := by
  have value : ((x.num.natAbs : ℚ) / x.den) = x := by
    rw [Nat.cast_natAbs, abs_of_nonneg (Rat.num_nonneg.2 nonneg), Rat.num_div_den]
  have within : fractionBits x.num.natAbs x.den < infinityBits := by
    rw [fractionBits_lt_iff _ x.den_pos, value]
    exact le.trans_lt one_lt_limit
  obtain ⟨m, q, parts, size⟩ := exists_parts_ofFraction (x.num < 0) x.num.natAbs x.den_pos within
  have rounded : (gridMantissa x.num.natAbs x.den : ℚ) * 2 ^ gridExponent x.num.natAbs x.den ≤ 1 := by
    by_cases zero : x.num.natAbs = 0
    · rw [zero, Nat.le_zero.1 (gridMantissa_le (k := 0) x.den_pos (by simp)), Nat.cast_zero, zero_mul]
      exact zero_le_one
    -- the exponent is not positive, and 1 a multiple of the power of two
    obtain ⟨least, -⟩ := floorLog2_bounds zero x.den_pos
    rw [value] at least
    have exponent : floorLog2 x.num.natAbs x.den ≤ 0 := by
      rw [← zpow_le_zpow_iff_right₀ (one_lt_two (α := ℚ)), zpow_zero]
      exact least.trans le
    obtain ⟨j, same⟩ : ∃ j : Nat, gridExponent x.num.natAbs x.den = -j :=
      ⟨(-gridExponent x.num.natAbs x.den).toNat, by unfold gridExponent; omega⟩
    have one : ((2 ^ j : Nat) : ℚ) * 2 ^ (-j : Int) = 1 := by
      rw [zpow_neg, zpow_natCast, Nat.cast_pow, Nat.cast_ofNat, mul_inv_cancel₀ (by positivity)]
    have most : gridMantissa x.num.natAbs x.den ≤ 2 ^ j := by
      refine gridMantissa_le x.den_pos ?_
      rw [value, same, one]
      exact le
    rw [same, ← one]
    exact mul_le_mul_of_nonneg_right (by exact_mod_cast most) (by positivity)
  have side : decide (x.num < 0) = false := decide_eq_false (not_lt.2 (Rat.num_nonneg.2 nonneg))
  refine ⟨_, parts, ?_⟩
  rw [Parts.toRat_eq, side, if_neg Bool.false_ne_true, size]
  exact ⟨by positivity, rounded⟩

/-- The double nearest to a word has parts with a small exponent. -/
lemma exists_parts_ofInt {n : Int} (fits : fitsWord n = true) : ∃ p, parts? (ofInt n) = some p ∧ p.exponent ≤ 14 := by
  unfold fitsWord at fits
  simp only [Bool.and_eq_true, decide_eq_true_eq] at fits
  have bits := fractionBits_le (n := n.natAbs) Nat.one_pos (e := 11)
    (Nat.le_of_lt_succ (log2_lt_of_lt (by decide) (by omega)))
  refine ⟨_, parts?_ofBits (n < 0) (bits.trans_lt (by decide)), ?_⟩
  split
  · exact show (-1074 : Int) ≤ 14 by decide
  · unfold hiddenBit at *
    dsimp only
    omega

/-! ## Sums of two words -/

/-- What is cut off from bounded parts is bounded. -/
lemma Parts.natAbs_truncate_lt {p : Parts} (short : p.mantissa < 2 ^ 53) {e : Nat} (le : p.exponent ≤ e) :
    p.truncate.natAbs < 2 ^ (53 + e) := by
  have size : (if p.exponent ≥ 0 then p.mantissa <<< p.exponent.toNat
      else p.mantissa >>> (-p.exponent).toNat) < 2 ^ (53 + e) := by
    split
    · rw [Nat.shiftLeft_eq, pow_add]
      exact Nat.mul_lt_mul_of_lt_of_le short (Nat.pow_le_pow_right Nat.two_pos (by omega)) (Nat.two_pow_pos _)
    · rw [Nat.shiftRight_eq_div_pow]
      exact (Nat.div_le_self _ _).trans_lt (short.trans_le (Nat.pow_le_pow_right Nat.two_pos (Nat.le_add_right _ _)))
  unfold Parts.truncate
  dsimp only
  split <;> omega

/-- The sum of two doubles with small exponents has parts with a small exponent. -/
lemma exists_parts_add {x y : Float} {p p' : Parts} (hx : parts? x = some p) (hy : parts? y = some p') {e : Int}
    (le : p.exponent ≤ e) (le' : p'.exponent ≤ e) (normal : -1074 ≤ e) (small : e ≤ 968) :
    ∃ sum, parts? (x + y) = some sum ∧ sum.mantissa < 2 ^ 53 ∧ sum.exponent ≤ e + 2 := by
  exact exists_parts (((isBounded_unpack hx).mono le).add ((isBounded_unpack hy).mono le') (by omega)) (by omega)
    (by omega)

end ActivityReport.Number

namespace ActivityReport

/-- The sum of two words can be cut to a whole number, which is not much larger. -/
theorem Amount.exists_toWhole_add {a b : Int} (fits : Number.fitsWord a = true) (fits' : Number.fitsWord b = true) :
    ∃ n, (Amount.add (.whole a) (.whole b)).toWhole = .ok n ∧ n.natAbs < 2 ^ 69 := by
  unfold add combine
  dsimp only
  split
  · rename_i exact
    refine ⟨_, rfl, ?_⟩
    unfold Number.fitsWord at exact
    simp only [Bool.and_eq_true, decide_eq_true_eq] at exact
    omega
  · obtain ⟨p, parts, le⟩ := Number.exists_parts_ofInt fits
    obtain ⟨p', parts', le'⟩ := Number.exists_parts_ofInt fits'
    obtain ⟨sum, sumParts, short, exponent⟩ :=
      Number.exists_parts_add parts parts' le le' (by decide) (by decide)
    refine ⟨sum.truncate, ?_, sum.natAbs_truncate_lt short (e := 16) exponent⟩
    show Number.wholeOfFloat _ = _
    unfold Number.wholeOfFloat Number.truncate?
    rw [sumParts]
    rfl

end ActivityReport
