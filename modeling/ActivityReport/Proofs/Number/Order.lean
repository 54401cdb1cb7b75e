import ActivityReport.Cell.Order
import ActivityReport.Proofs.Number.Defined

/-!
# Order of numbers

However numbers are compared, they are compared by value: `Decimal.order` works on the digits and on the place of
the first one, and never on a power of ten between numbers of different size; yet it is the order of the
rational numbers that the decimal numbers stand for (`Decimal.order_eq_cmp`). So the order of two numbers of
the kinds that a column holds is the same whether they are compared as such or as extended decimal numbers
(`Cell.exists_place`).
-/

namespace ActivityReport

/-! ## Decimal numbers -/

namespace Decimal

/-- The size of a decimal number, its sign left aside. -/
def size (x : Decimal) : ℚ := x.digits * 10 ^ x.exponent

/-- The rational number that a decimal number stands for. -/
def toRat (x : Decimal) : ℚ := if x.negative then -x.size else x.size

variable {x y : Decimal}

lemma size_nonneg (x : Decimal) : 0 ≤ x.size := by
  unfold size
  positivity

lemma size_eq_zero (h : x.digits = 0) : x.size = 0 := by
  rw [size, h, Nat.cast_zero, zero_mul]

lemma size_pos (h : x.digits ≠ 0) : 0 < x.size := by
  unfold size
  have : 0 < x.digits := Nat.pos_of_ne_zero h
  positivity

/-- The place of the first digit bounds the size from both sides. -/
lemma size_bounds (h : x.digits ≠ 0) : (10 : ℚ) ^ (x.magnitude - 1) ≤ x.size ∧ x.size < (10 : ℚ) ^ x.magnitude := by
  have length : 0 < (Nat.toDigits 10 x.digits).length := Nat.length_toDigits_pos
  have below : x.digits < 10 ^ (Nat.toDigits 10 x.digits).length :=
    (Nat.length_toDigits_le_iff (by decide) length).1 le_rfl
  have above : 10 ^ ((Nat.toDigits 10 x.digits).length - 1) ≤ x.digits := by
    by_cases single : (Nat.toDigits 10 x.digits).length - 1 = 0
    · rw [single]
      exact Nat.pos_of_ne_zero h
    · refine Nat.le_of_not_lt fun less => ?_
      have := (Nat.length_toDigits_le_iff (by decide) (Nat.pos_of_ne_zero single)).2 less
      omega
  unfold size magnitude
  generalize (Nat.toDigits 10 x.digits).length = k at length below above
  have shift : ∀ j : Nat, (10 : ℚ) ^ (x.exponent + j) = (10 ^ j : Nat) * 10 ^ x.exponent := by
    intro j
    rw [zpow_add₀ (by norm_num), zpow_natCast, mul_comm]
    push_cast
    rfl
  have unit : (0 : ℚ) < 10 ^ x.exponent := by positivity
  rw [show x.exponent + (k : Int) - 1 = x.exponent + (k - 1 : Nat) by omega, shift, shift]
  exact ⟨mul_le_mul_of_nonneg_right (by exact_mod_cast above) unit.le,
    mul_lt_mul_of_pos_right (by exact_mod_cast below) unit⟩

/-- Numbers of digits that are brought to one power of ten are compared by size. -/
lemma cmp_mul_zpow (m n : Nat) (e : Int) : cmp ((m : ℚ) * 10 ^ e) (n * 10 ^ e) = cmp m n := by
  have mono : StrictMono fun k : Nat => (k : ℚ) * 10 ^ e := fun m n less =>
    mul_lt_mul_of_pos_right (by exact_mod_cast less) (by positivity)
  exact mono.cmp_map_eq m n

/-- Sizes are compared by value. -/
lemma compareSize_eq_cmp (x y : Decimal) : x.compareSize y = cmp x.size y.size := by
  unfold compareSize
  by_cases zero : x.digits = 0 ∨ y.digits = 0
  · rw [if_pos (by simpa using zero), ← cmp_eq_compare]
    rcases zero with zero | zero
    · rw [size_eq_zero zero, zero, size, ← cmp_mul_zpow 0 y.digits y.exponent, Nat.cast_zero, zero_mul]
    · rw [size_eq_zero zero, zero, size, ← cmp_mul_zpow x.digits 0 x.exponent, Nat.cast_zero, zero_mul]
  · rw [not_or] at zero
    rw [if_neg (by simpa using zero), ← cmp_eq_compare]
    obtain ⟨above, below⟩ := size_bounds zero.1
    obtain ⟨above', below'⟩ := size_bounds zero.2
    rcases lt_trichotomy x.magnitude y.magnitude with less | same | less
    · rw [(cmp_eq_lt_iff _ _).2 less]
      refine ((cmp_eq_lt_iff _ _).2 (below.trans_le (le_trans ?_ above'))).symm
      exact zpow_le_zpow_right₀ (by norm_num) (by omega)
    · rw [(cmp_eq_eq_iff _ _).2 same]
      show compare _ _ = _
      have common : ∀ (z : Decimal) (e : Int), e ≤ z.exponent →
          z.size = (z.digits * Nat.pow 10 (z.exponent - e).toNat : Nat) * 10 ^ e := by
        intro z e le
        rw [size, show Nat.pow 10 (z.exponent - e).toNat = 10 ^ (z.exponent - e).toNat from rfl]
        push_cast
        rw [mul_assoc, ← zpow_natCast, ← zpow_add₀ (by norm_num), Int.toNat_of_nonneg (by omega), Int.sub_add_cancel]
      rw [← cmp_eq_compare, common x (min x.exponent y.exponent) (min_le_left _ _),
        common y (min x.exponent y.exponent) (min_le_right _ _), cmp_mul_zpow]
      rw [show (x.exponent - min x.exponent y.exponent).toNat = (x.exponent - y.exponent).toNat by omega,
        show (y.exponent - min x.exponent y.exponent).toNat = (y.exponent - x.exponent).toNat by omega]
    · rw [(cmp_eq_gt_iff _ _).2 less]
      refine ((cmp_eq_gt_iff _ _).2 (below'.trans_le (le_trans ?_ above))).symm
      exact zpow_le_zpow_right₀ (by norm_num) (by omega)

/-- A number that is not below 0 is as large as its size. -/
lemma toRat_of_nonneg (h : x.isBelowZero = false) : x.toRat = x.size := by
  unfold isBelowZero at h
  unfold toRat
  split
  · rename_i negative
    rw [negative, Bool.true_and, bne_eq_false_iff_eq] at h
    rw [size_eq_zero h, neg_zero]
  · rfl

lemma toRat_of_neg (h : x.isBelowZero = true) : x.toRat = -x.size ∧ 0 < x.size := by
  unfold isBelowZero at h
  obtain ⟨negative, notZero⟩ := Bool.and_eq_true_iff.1 h
  exact ⟨if_pos negative, size_pos (bne_iff_ne.1 notZero)⟩

/-- Decimal numbers are compared by value. -/
theorem order_eq_cmp (x y : Decimal) : x.order y = cmp x.toRat y.toRat := by
  unfold order
  cases left : x.isBelowZero <;> cases right : y.isBelowZero <;> dsimp only
  · rw [toRat_of_nonneg left, toRat_of_nonneg right, compareSize_eq_cmp]
  · obtain ⟨value, pos⟩ := toRat_of_neg right
    rw [toRat_of_nonneg left, value]
    exact ((cmp_eq_gt_iff _ _).2 ((neg_lt_zero.2 pos).trans_le x.size_nonneg)).symm
  · obtain ⟨value, pos⟩ := toRat_of_neg left
    rw [toRat_of_nonneg right, value]
    exact ((cmp_eq_lt_iff _ _).2 ((neg_lt_zero.2 pos).trans_le y.size_nonneg)).symm
  · rw [(toRat_of_neg left).1, (toRat_of_neg right).1, compareSize_eq_cmp]
    have anti : StrictAnti (Neg.neg : ℚ → ℚ) := fun _ _ => neg_lt_neg
    exact (anti.cmp_map_eq x.size y.size).symm

lemma toRat_ofInt (n : Int) : (ofInt n).toRat = n := by
  unfold toRat size ofInt
  simp only [zpow_zero, mul_one, decide_eq_true_eq]
  split
  · rw [← Int.cast_natCast, ← Int.cast_neg]
    exact congrArg _ (by omega)
  · rw [← Int.cast_natCast]
    exact congrArg _ (by omega)

end Decimal

namespace Number.Parts

/-- The denominator of a finite double is a power of two. -/
lemma exists_den_toRat (p : Parts) : ∃ k, p.toRat.den = 2 ^ k := by
  have power : ∀ (m : Nat) (k : Nat), ∃ j, (mkRat m (2 ^ k)).den = 2 ^ j := by
    intro m k
    have divides : (mkRat m (2 ^ k)).den ∣ 2 ^ k := by
      rw [Rat.den_mkRat, if_neg (by positivity)]
      exact Nat.div_dvd_of_dvd (Nat.gcd_dvd_left _ _)
    obtain ⟨j, -, same⟩ := (Nat.dvd_prime_pow Nat.prime_two).1 divides
    exact ⟨j, same⟩
  unfold toRat
  dsimp only
  split <;> split
  · exact power _ 0
  · rw [Rat.neg_den, Nat.one_shiftLeft]
    exact power _ _
  · exact power _ 0
  · rw [Nat.one_shiftLeft]
    exact power _ _

/-- The sign of a finite double is that of its value. -/
lemma abs_toRat (p : Parts) : (if p.negative then -|p.toRat| else |p.toRat|) = p.toRat := by
  have size : 0 ≤ (if p.exponent ≥ 0 then mkRat (p.mantissa <<< p.exponent.toNat : Nat) 1
      else mkRat p.mantissa (1 <<< (-p.exponent).toNat)) := by
    split
    · rw [Rat.mkRat_eq_div]
      positivity
    · rw [Rat.mkRat_eq_div]
      positivity
  unfold toRat
  dsimp only
  split
  · rw [abs_neg, abs_of_nonneg size]
  · exact abs_of_nonneg size

end Number.Parts

namespace Decimal

/-- The value of a finite double is kept when it is brought to decimal form. -/
lemma toRat_ofParts (p : Number.Parts) : (ofParts p).toRat = p.toRat := by
  obtain ⟨k, den⟩ := p.exists_den_toRat
  have size : (ofParts p).size = |p.toRat| := by
    unfold size ofParts
    dsimp only
    rw [den, Nat.log2_two_pow, show Nat.pow 5 k = 5 ^ k from rfl]
    conv_rhs => rw [← Rat.num_div_den p.toRat, abs_div, den]
    push_cast
    rw [zpow_neg, zpow_natCast, show (10 : ℚ) = 5 * 2 by norm_num, mul_pow]
    rw [abs_of_pos (show (0 : ℚ) < 2 ^ k by positivity), Nat.cast_natAbs, Int.cast_abs]
    field_simp
  unfold toRat
  rw [size]
  exact p.abs_toRat

end Decimal

/-! ## Places -/

namespace Number

/-- The place of a number on the line of the rational numbers with its two ends. -/
def Extent.place : Extent → WithBot (WithTop ℚ)
  | below => ⊥
  | value r => (r : WithTop ℚ)
  | above => (⊤ : WithTop ℚ)

lemma Extent.compare_eq_cmp (a b : Extent) : a.compare b = cmp a.place b.place := by
  refine (Ordering.Compares.cmp_eq ?_).symm
  cases a <;> cases b
  case value.value r r' =>
    show (if r < r' then Ordering.lt else if r' < r then .gt else .eq).Compares _ _
    split
    · rename_i less
      exact WithBot.coe_lt_coe.2 (WithTop.coe_lt_coe.2 less)
    split
    · rename_i less
      exact WithBot.coe_lt_coe.2 (WithTop.coe_lt_coe.2 less)
    · rename_i notBelow notAbove
      exact congrArg (fun r : ℚ => ((r : WithTop ℚ) : WithBot (WithTop ℚ)))
        (le_antisymm (not_lt.1 notAbove) (not_lt.1 notBelow))
  case below.below | above.above => rfl
  case below.value | below.above => exact WithBot.bot_lt_coe _
  case value.below | above.below => exact WithBot.bot_lt_coe _
  case value.above | above.value => exact WithBot.coe_lt_coe.2 (WithTop.coe_lt_top _)

/-- The place of a number; not-a-number has none. -/
def Numeral.place? (n : Numeral) : Option (WithBot (WithTop ℚ)) := n.extent?.map Extent.place

/-- Numbers are compared by their places. -/
lemma Numeral.compare_eq_cmp {m n : Numeral} {x y : WithBot (WithTop ℚ)} (hm : m.place? = some x)
    (hn : n.place? = some y) : m.compare n = cmp x y := by
  obtain ⟨a, left, rfl⟩ := Option.map_eq_some_iff.1 hm
  obtain ⟨b, right, rfl⟩ := Option.map_eq_some_iff.1 hn
  cases m with
  | real x =>
    unfold compare
    dsimp only
    rw [left, right]
    exact a.compare_eq_cmp b
  | whole i =>
    cases n with
    | real y =>
      unfold compare
      dsimp only
      rw [left, right]
      exact a.compare_eq_cmp b
    | whole j =>
      cases left
      cases right
      have mono : StrictMono fun k : Int => (((k : ℚ) : WithTop ℚ) : WithBot (WithTop ℚ)) := fun _ _ less =>
        WithBot.coe_lt_coe.2 (WithTop.coe_lt_coe.2 (Int.cast_lt.2 less))
      exact (cmp_eq_compare i j).symm.trans (mono.cmp_map_eq i j).symm

/-- A double has a place if it is a number. -/
lemma exists_place_iff {x : Float} : (∃ p, (Numeral.real x).place? = some p) ↔ x.isNaN = false := by
  show (∃ p, (extentOfFloat? x).map Extent.place = some p) ↔ _
  unfold extentOfFloat?
  split
  · rename_i parts
    exact ⟨fun _ => isNaN_of_parts? parts, fun _ => ⟨_, rfl⟩⟩
  · cases x.isNaN
    · exact ⟨fun _ => rfl, fun _ => ⟨_, rfl⟩⟩
    · exact ⟨nofun, nofun⟩

end Number

namespace ExtendedDecimal

/-- The place of an extended decimal number; what is no number has none. -/
def place? : ExtendedDecimal → Option (WithBot (WithTop ℚ))
  | finite x => some (x.toRat : WithTop ℚ)
  | infinite negative => some (if negative then ⊥ else (⊤ : WithTop ℚ))
  | undefined .. => none

/-- Extended decimal numbers are compared by their places. -/
lemma order?_eq_cmp {x y : ExtendedDecimal} {a b : WithBot (WithTop ℚ)} (hx : x.place? = some a)
    (hy : y.place? = some b) : x.order? y = some (cmp a b) := by
  cases x with
  | undefined => cases hx
  | finite d =>
    cases hx
    cases y with
    | undefined => cases hy
    | finite d' =>
      cases hy
      have mono : StrictMono fun r : ℚ => ((r : WithTop ℚ) : WithBot (WithTop ℚ)) := fun _ _ less =>
        WithBot.coe_lt_coe.2 (WithTop.coe_lt_coe.2 less)
      exact congrArg some ((d.order_eq_cmp d').trans (mono.cmp_map_eq _ _).symm)
    | infinite negative =>
      cases hy
      refine congrArg some (Ordering.Compares.cmp_eq ?_).symm
      cases negative
      · exact WithBot.coe_lt_coe.2 (WithTop.coe_lt_top _)
      · exact WithBot.bot_lt_coe _
  | infinite negative =>
    cases hx
    cases y with
    | undefined => cases hy
    | finite =>
      cases hy
      refine congrArg some (Ordering.Compares.cmp_eq ?_).symm
      cases negative
      · exact WithBot.coe_lt_coe.2 (WithTop.coe_lt_top _)
      · exact WithBot.bot_lt_coe _
    | infinite negative' =>
      cases hy
      refine congrArg some (Ordering.Compares.cmp_eq ?_).symm
      cases negative <;> cases negative'
      case false.true | true.false => exact WithBot.bot_lt_coe _
      all_goals rfl

/-- A double has the same place when it is brought to decimal form. -/
lemma place?_ofFloat (x : Float) : (ofFloat x).place? = (Number.Numeral.real x).place? := by
  show _ = (Number.extentOfFloat? x).map Number.Extent.place
  unfold ofFloat Number.extentOfFloat?
  cases Number.parts? x with
  | some p =>
    show some _ = some _
    rw [Decimal.toRat_ofParts]
    rfl
  | none =>
    dsimp only
    cases x.isNaN
    · cases Number.isNegative x <;> rfl
    · rfl

lemma place?_ofInt (n : Int) : (ofInt n).place? = (Number.Numeral.whole n).place? := by
  show some _ = some _
  rw [Decimal.toRat_ofInt]
  rfl

end ExtendedDecimal

/-! ## Cells -/

namespace Cell

/-- A cell of the family of numbers has one place, by which it is compared in either way. -/
theorem exists_place {c : Cell} (h : c.family? = some .number) :
    ∃ n d p, c.number? = some n ∧ n.place? = some p ∧ c.quantity? = some (false, d) ∧ d.place? = some p := by
  cases c with
  | int n => exact ⟨_, _, _, rfl, rfl, rfl, ExtendedDecimal.place?_ofInt n⟩
  | bool b => exact ⟨_, _, _, rfl, rfl, rfl, ExtendedDecimal.place?_ofInt _⟩
  | float x =>
    have number : x.isNaN = false := by
      refine Bool.eq_false_iff.2 fun isNaN => ?_
      have h : (if x.isNaN then none else some CellFamily.number) = some .number := h
      rw [isNaN, if_pos rfl] at h
      cases h
    obtain ⟨p, place⟩ := Number.exists_place_iff.2 number
    exact ⟨_, _, p, rfl, place, rfl, (ExtendedDecimal.place?_ofFloat x).trans place⟩
  | list items =>
    unfold family? at h
    dsimp only at h
    split at h <;> cases h
  | _ => cases h

end Cell

end ActivityReport
