import ActivityReport.Cell.Basic
import ActivityReport.Proofs.Number.Finite

/-!
# Doubles that are numbers

Not-a-number never arises where none was: the double nearest to a fraction is a number
(`Number.isNaN_ofFraction`), a sum with a finite double is one when the other summand is
(`Number.isNaN_add`), and so is what a text or a decimal number spells. So a cell that is not not-a-number
holds a number that is none either (`Cell.isNaN_of_toNumber?`), and the rank of a level is a number
(`Level.isNaN_shownSortOrder`).
-/

namespace ActivityReport.Number

open Float.Model
open Float.Model.UnpackedFloat

/-! ## Words -/

/-- Not-a-number is told from the word. -/
lemma isNaN_eq_false {x : Float} (h : @isNaNBits .binary64 x.toBits.toBitVec = false) : x.isNaN = false := by
  refine Bool.eq_false_iff.2 fun isNaN => ?_
  have word := (isNaN_unpack_iff_of_valid x.toModel.valid).1 isNaN
  exact Bool.false_ne_true (h.symm.trans ((congrArg isNaNBits word).trans isNaNBits_packedNaN))

/-- A finite double is a number. -/
lemma isNaN_of_parts? {x : Float} {p : Parts} (h : parts? x = some p) : x.isNaN = false := by
  have bounded := isBounded_unpack h
  show x.toModel.unpack.isNaN = false
  cases unpacked : x.toModel.unpack with
  | notANumber =>
    rw [unpacked] at bounded
    exact bounded.elim
  | _ => rfl

/-- A word up to the bits of infinity is a number. -/
lemma isNaN_ofBits (negative : Bool) {bits : Nat} (le : bits ≤ infinityBits) :
    (Float.ofBits (UInt64.ofNat (signBit negative + bits))).isNaN = false := by
  have sign : signBit negative = 0 ∨ signBit negative = 2048 * hiddenBit := by cases negative <;> decide
  have word : (UInt64.ofNat (signBit negative + bits)).toNat = signBit negative + bits := by
    refine UInt64.toNat_ofNat_of_lt' (?_ : _ < 2 ^ 64)
    unfold hiddenBit infinityBits at *
    omega
  have number : @isNaNBits .binary64 (UInt64.ofNat (signBit negative + bits)).toBitVec = false := by
    obtain ⟨exponent, mantissa⟩ := toNat_unpack (UInt64.ofNat (signBit negative + bits)).toBitVec
    rw [UInt64.toNat_toBitVec, word] at exponent mantissa
    refine decide_eq_false ?_
    rintro ⟨ones, notZero⟩
    refine notZero (BitVec.eq_of_toNat_eq (mantissa.trans ?_))
    rw [ones] at exponent
    have ones : 2047 = (signBit negative + bits) / hiddenBit % 2048 := exponent
    show _ = 0
    unfold hiddenBit infinityBits at *
    omega
  refine isNaN_eq_false ?_
  rw [toBits_ofBits number]
  exact number

/-- A packed double is not-a-number only if it was before. -/
lemma isNaNBits_pack {u : UnpackedFloat} (h : u ≠ .notANumber) :
    isNaNBits (UnpackedFloat.pack .binary64 u) = false := by
  have components : ∀ (s : Sign) (f : BitVec 11) (t : BitVec 52), (f = -1#11 → t = 0#52) →
      @isNaNBits .binary64 (packComponents .binary64 s f t) = false := by
    intro s f t plain
    unfold isNaNBits
    rw [unpackExponent_packComponents, unpackMantissa_packComponents]
    exact decide_eq_false fun isNaN => isNaN.2 (plain isNaN.1)
  cases u with
  | notANumber => exact absurd rfl h
  | infinity s => exact components s _ _ fun _ => rfl
  | zero s => exact components s 0#11 _ nofun
  | finite s m e =>
    unfold UnpackedFloat.pack
    dsimp only
    split
    · exact components s _ _ fun _ => rfl
    · rename_i inside
      split
      · refine components s _ _ fun ones => absurd (congrArg BitVec.toNat ones) ?_
        have inside : ¬ 2048 ≤ (e + (Format.exponentBias .binary64 : Nat) +
          (Format.mantissaBitsWithoutImplicit .binary64 : Nat)).toNat + 1 := inside
        rw [BitVec.toNat_ofNat]
        show ¬ _ % 2048 = 2047
        omega
      · exact components s 0#11 _ nofun

/-! ## Fractions -/

lemma isNaN_ofFraction (negative : Bool) (n d : Nat) : (ofFraction negative n d).isNaN = false :=
  isNaN_ofBits negative (fractionBits_le_infinityBits n d)

/-- A rational number within the doubles has a finite double nearest to it. -/
lemma exists_parts_ofRat {x : Rat} (within : isWithinDoubles x = true) : ∃ p, parts? (ofRat x) = some p :=
  ⟨_, parts?_ofBits (x.num < 0) (of_decide_eq_true within)⟩

/-! ## Sums -/

/-- What is rounded is a number. -/
lemma round_ne_notANumber (sign : Sign) (m : Nat) (e : Int) :
    UnpackedFloat.round .binary64 sign m e ≠ .notANumber := by
  unfold UnpackedFloat.round roundWithAccuracy
  dsimp only
  split <;> nofun

/-- The sum of a number and a bounded double is a number. -/
lemma add_ne_notANumber {u v : UnpackedFloat} {e : Int} (hu : u ≠ .notANumber) (hv : IsBounded e v) :
    UnpackedFloat.add .binary64 u v ≠ .notANumber := by
  have normalized : ∀ m e, UnpackedFloat.normalize .binary64 m e .positive ≠ .notANumber := by
    intro m e
    unfold UnpackedFloat.normalize
    split
    · exact round_ne_notANumber _ _ _
    · nofun
    · exact round_ne_notANumber _ _ _
  cases v with
  | notANumber | infinity => exact hv.elim
  | zero =>
    cases u with
    | notANumber => exact absurd rfl hu
    | zero => unfold UnpackedFloat.add; dsimp only; split <;> nofun
    | infinity | finite => nofun
  | finite =>
    cases u with
    | notANumber => exact absurd rfl hu
    | infinity | zero => nofun
    | finite => exact normalized _ _

/-- The sum of a number and a finite double is a number. -/
lemma isNaN_add {x y : Float} {p : Parts} (number : x.isNaN = false) (finite : parts? y = some p) :
    (x + y).isNaN = false := by
  have unpacked : x.toModel.unpack ≠ .notANumber := by
    intro same
    have isNaN : x.toModel.unpack.isNaN = true := congrArg UnpackedFloat.isNaN same
    exact Bool.false_ne_true (number.symm.trans isNaN)
  exact isNaN_eq_false (isNaNBits_pack (add_ne_notANumber unpacked (isBounded_unpack finite)))

/-! ## Texts -/

open Text

section

variable {c : Char} {cs ds : List Char}

lemma mem_dropWhile {drop : Char → Bool} (keeps : drop c = false) (h : c ∈ cs) : c ∈ cs.dropWhile drop := by
  rw [← List.takeWhile_append_dropWhile (p := drop) (l := cs)] at h
  refine (List.mem_append.1 h).resolve_left fun early => ?_
  exact Bool.false_ne_true (keeps.symm.trans (List.mem_takeWhile_imp early))

lemma mem_trim {drop : Char → Bool} (keeps : drop c = false) (h : c ∈ cs) : c ∈ trim drop cs :=
  List.mem_reverse.2 (mem_dropWhile keeps (List.mem_reverse.2 (mem_dropWhile keeps h)))

lemma mem_dropSeparators {afterDigit : Bool} (h : dropSeparators afterDigit cs = some ds) (kept : c ≠ '_')
    (listed : c ∈ cs) : c ∈ ds := by
  fun_induction dropSeparators afterDigit cs generalizing ds with
  | case1 => cases listed
  | case2 _ rest _ ih => exact ih h ((List.mem_cons.1 listed).resolve_left kept)
  | case3 => cases h
  | case4 _ first rest _ ih =>
    obtain ⟨later, dropped, rfl⟩ := Option.map_eq_some_iff.1 h
    rcases List.mem_cons.1 listed with rfl | listed
    · exact List.mem_cons_self
    · exact List.mem_cons_of_mem _ (ih dropped listed)

lemma mem_splitSign (notMinus : c ≠ '-') (notPlus : c ≠ '+') (h : c ∈ cs) : c ∈ (splitSign cs).2 := by
  unfold splitSign
  split
  · exact (List.mem_cons.1 h).resolve_left notMinus
  · exact (List.mem_cons.1 h).resolve_left notPlus
  · exact h

/-- The marks by which a text is read as a double. -/
def marks : List Char := ['.', 'e', 'E']

/-- A mark is kept when a text is brought to plain form. -/
lemma mem_plain? (mark : c ∈ marks) (h : plain? cs = some ds) (listed : c ∈ cs) : c ∈ ds := by
  have own : marks.all (fun c => isBlank c = false ∧ decimalDigit? c = none ∧ c ≠ '_') = true := by decide
  obtain ⟨notBlank, noDigit, kept⟩ := of_decide_eq_true (List.all_eq_true.1 own c mark)
  exact mem_dropSeparators h kept (List.mem_map.2 ⟨c, mem_trim notBlank listed, by rw [noDigit]; rfl⟩)

/-- What a name with a mark stands for is a number, since not-a-number is spelled without one. -/
lemma isNaN_named? (mark : c ∈ marks) (listed : c ∈ cs) {x : Float} (h : named? cs = some x) : x.isNaN = false := by
  have own : marks.all (fun c => c ≠ '-' ∧ c ≠ '+' ∧ c.toLower ∉ ['n', 'a', 'n']) = true := by decide
  obtain ⟨notMinus, notPlus, foreign⟩ := of_decide_eq_true (List.all_eq_true.1 own c mark)
  have listed := mem_splitSign notMinus notPlus listed
  unfold named? at h
  generalize splitSign cs = split at h listed
  obtain ⟨negative, rest⟩ := split
  dsimp only at h listed
  split at h
  · cases h
    exact isNaN_ofBits negative le_rfl
  · split at h
    · rename_i nan
      have letters : rest.map Char.toLower = ['n', 'a', 'n'] := String.ofList_injective nan
      exact absurd (letters ▸ List.mem_map_of_mem listed) foreign
    · cases h

end

end ActivityReport.Number

namespace ActivityReport

open Number

/-- The double nearest to a decimal number is a number. -/
lemma Decimal.isNaN_toFloat (x : Decimal) : x.toFloat.isNaN = false := by
  unfold toFloat
  dsimp only
  split
  · exact isNaN_ofBits _ (Nat.zero_le _)
  split
  · exact isNaN_ofBits _ le_rfl
  split
  · exact isNaN_ofBits _ (Nat.zero_le _)
  split <;> exact isNaN_ofFraction _ _ _

/-- What a text is read as is a number. -/
lemma Number.isNaN_number? {s : String} {x : Float} (h : number? s = some (.real x)) : x.isNaN = false := by
  unfold number? at h
  dsimp only at h
  generalize Text.trim Text.isSpacing s.toList = cs at h
  split at h
  · rename_i marked
    obtain ⟨c, listed, isMark⟩ := List.any_eq_true.1 marked
    have mark : c ∈ marks := by simpa [marks, or_assoc] using isMark
    obtain ⟨y, read, same⟩ := Option.map_eq_some_iff.1 h
    cases same
    obtain ⟨ascii, plain, read⟩ := Option.bind_eq_some_iff.1 read
    cases decimal : decimal? ascii with
    | some d =>
      rw [decimal] at read
      cases read
      exact d.isNaN_toFloat
    | none =>
      rw [decimal] at read
      exact isNaN_named? mark (mem_plain? mark plain listed) read
  · obtain ⟨n, -, same⟩ := Option.map_eq_some_iff.1 h
    cases same

namespace Cell

/-- Whether a cell holds not-a-number. -/
def isNaN : Cell → Bool
  | float x => x.isNaN
  | minusNaN => true
  | _ => false

/-- Not-a-number is read from no other cell. -/
lemma isNaN_of_toNumber? {c : Cell} (number : c.isNaN = false) {x : Float} (h : c.toNumber? = some (.real x)) :
    x.isNaN = false := by
  cases c with
  | float =>
    cases h
    exact number
  | minusNaN => cases number
  | text s => exact isNaN_number? h
  | decimal d =>
    cases d with
    | finite d =>
      have h : d.toNumber? = some (.real x) := h
      unfold Decimal.toNumber? at h
      split at h
      · split at h <;> cases h
      · cases h
        exact d.isNaN_toFloat
    | infinite | undefined => cases h
  | _ => cases h

end Cell

/-! ## Levels -/

/-- The progress of a measured level lies within the doubles. -/
lemma Ladder.isWithinDoubles_of_measure {ladder : Ladder} {contributions activeDays : Int} {level : Level}
    (h : ladder.measure contributions activeDays = .ok level) : isWithinDoubles level.progress = true := by
  unfold measure at h
  split at h
  · rename_i measurable
    cases h
    unfold isMeasurable at measurable
    unfold Ladder.level
    dsimp only
    cases shares : ladder.shares? (ladder.heldIndex? contributions activeDays) contributions activeDays with
    | none => decide
    | some both =>
      rw [shares] at measurable
      obtain ⟨first, second⟩ := Bool.and_eq_true_iff.1 measurable
      -- the lesser share is one of the two, unless it is cut to 0 or 1
      have lesser : isWithinDoubles (if both.2 < both.1 then both.2 else both.1) = true := by
        split
        · exact second
        · exact first
      show isWithinDoubles (clampFraction _) = true
      generalize (if both.2 < both.1 then both.2 else both.1) = share at lesser
      unfold clampFraction
      split
      · decide
      split
      · decide
      · exact lesser
  · cases h

/-- The rank of a level is a number when its progress lies within the doubles. -/
lemma Level.isNaN_shownSortOrder {level : Level} (within : isWithinDoubles level.progress = true) :
    level.shownSortOrder.isNaN = false := by
  obtain ⟨p, finite⟩ := exists_parts_ofRat within
  exact isNaN_add (isNaN_ofFraction _ _ _) finite

end ActivityReport
