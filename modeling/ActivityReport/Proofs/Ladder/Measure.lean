import ActivityReport.Proofs.Ladder.Order
import ActivityReport.Proofs.Number.Sum

/-!
# Measured levels

What holds of a level on every ladder, in whichever order its rungs are listed. The level is that of the last rung in
the list whose thresholds are exceeded (`Ladder.rungAt?_heldIndex?`), and where the thresholds do not descend its height
is the number of such rungs (`Ladder.height_eq_countP`). Whether it can be measured depends on nothing but the size of
two shares: nothing is ever divided by 0 (`Ladder.checkedProgress_eq`), and totals within the doubles have shares within
them (`Ladder.measure_eq_ok_level`). A level that is measured stays between its rung and the next, in exact numbers as
well as in doubles (`Ladder.measure_in_any_order`).
-/

namespace ActivityReport

open Number (isWithinDoubles isWithinDoubles_iff limit one_lt_limit IsBetween)

/-! ## Checked divisions -/

/-- Why a quotient of whole numbers cannot be worked out as a double. -/
inductive QuotientFault where
  | byZero
  | overflow
  deriving DecidableEq, Repr

/-- The quotient of two whole numbers, unless the second is 0 or the quotient lies beyond the doubles. -/
def quotient (a b : Int) : Except QuotientFault ℚ :=
  if b = 0 then .error .byZero else if isWithinDoubles (a / b) then .ok (a / b) else .error .overflow

/-- The share of the way from one threshold to the next, by a division that is checked; a step without width is
covered. -/
def checkedShare (value current target : Int) : Except QuotientFault ℚ :=
  if target ≤ current then .ok 1 else quotient (value - current) (target - current)

/-- A share is divided by a width that is not 0, so that only its size can be a fault. -/
lemma checkedShare_eq (value current target : Int) : checkedShare value current target =
    if isWithinDoubles (stepProgress value current target) then .ok (stepProgress value current target)
    else .error .overflow := by
  by_cases wide : current < target
  · rw [checkedShare, if_neg (not_le.2 wide), quotient, if_neg (by omega), stepProgress_of_lt wide]
  · rw [checkedShare, if_pos (not_lt.1 wide), stepProgress, if_pos (not_lt.1 wide), if_pos (by decide)]

/-- A share is no larger than the total, or than 1. -/
lemma abs_stepProgress_le {value current : Int} (target : Int) (ground : 0 ≤ current)
    (below : current = 0 ∨ current < value) : |stepProgress value current target| ≤ max 1 |(value : ℚ)| := by
  by_cases wide : current < target
  · have width : (1 : ℚ) ≤ ((target - current : Int) : ℚ) := by exact_mod_cast (by omega)
    have size : |((value - current : Int) : ℚ)| ≤ |(value : ℚ)| := by
      rw [← Int.cast_abs, ← Int.cast_abs, Int.cast_le]
      rcases below with rfl | below
      · rw [sub_zero]
      · rw [abs_of_nonneg (by omega), abs_of_nonneg (by omega)]
        omega
    rw [stepProgress_of_lt wide, abs_div, abs_of_pos (zero_lt_one.trans_le width)]
    exact ((div_le_self (abs_nonneg _) width).trans size).trans (le_max_right _ _)
  · rw [stepProgress, if_pos (not_lt.1 wide), abs_one]
    exact le_max_left _ _

namespace Ladder

variable {ladder : Ladder} {c d : Int} {next : Rung} {l : Level}

/-! ## The last rung -/

/-- The rung that is held is the last one whose thresholds are exceeded. -/
lemma rungAt?_heldIndex? (ladder : Ladder) (c d : Int) :
    ladder.rungAt? (ladder.heldIndex? c d) = (ladder.filter (·.isExceeded c d)).getLast? := by
  induction ladder with
  | nil => rfl
  | cons rung rest ih =>
    rw [heldIndex?, List.filter_cons]
    cases held : heldIndex? rest c d with
    | some i =>
      rw [held] at ih
      have later : (rest.filter (·.isExceeded c d)).getLast? = rest[i]? := ih.symm
      obtain ⟨own, listed, -⟩ := getElem?_heldIndex? held
      show rest[i]? = _
      split
      · rw [List.getLast?_cons, later, listed]
        rfl
      · exact later.symm
    | none =>
      rw [held] at ih
      have none : rest.filter (·.isExceeded c d) = [] := List.getLast?_eq_none_iff.1 ih.symm
      rw [none]
      dsimp only
      split <;> rfl

/-- Whether no threshold descends from rung to rung. -/
def IsNondecreasing (ladder : Ladder) : Prop :=
  ladder.Pairwise fun r r' => r.contributions ≤ r'.contributions ∧ r.activeDays ≤ r'.activeDays

instance (ladder : Ladder) : Decidable ladder.IsNondecreasing := inferInstanceAs (Decidable (List.Pairwise _ _))

/-- Where no threshold descends, the height is the number of rungs whose thresholds are exceeded. -/
lemma height_eq_countP (ordered : ladder.IsNondecreasing) (c d : Int) :
    ladder.height c d = ladder.countP (·.isExceeded c d) := by
  induction ladder with
  | nil => rfl
  | cons rung rest ih =>
    obtain ⟨below, ordered⟩ := List.pairwise_cons.1 ordered
    have ih := ih ordered
    rw [List.countP_cons]
    unfold height at ih ⊢
    rw [heldIndex?]
    cases held : heldIndex? rest c d with
    | some i =>
      obtain ⟨own, listed, exceeded⟩ := getElem?_heldIndex? held
      -- a rung below one whose thresholds are exceeded has its own exceeded too
      have first : rung.isExceeded c d = true := by
        have le := below own (List.mem_of_getElem? listed)
        rw [Rung.isExceeded_iff] at exceeded ⊢
        omega
      rw [held] at ih
      dsimp only
      rw [if_pos first, ← ih]
      rfl
    | none =>
      rw [held] at ih
      rw [← ih]
      dsimp only
      split <;> rfl

/-! ## The outcome -/

/-- A threshold of the rung that is held lies below the total, and on the ground it is 0. -/
lemma ground_le (ladder : Ladder) (threshold : Rung → Nat) {value : Int}
    (exceeded : ∀ rung : Rung, rung.isExceeded c d = true → (threshold rung : Int) < value) :
    0 ≤ ladder.ground (ladder.heldIndex? c d) threshold ∧
      (ladder.ground (ladder.heldIndex? c d) threshold = 0 ∨
        ladder.ground (ladder.heldIndex? c d) threshold < value) := by
  unfold ground rungAt?
  cases held : ladder.heldIndex? c d with
  | none => exact ⟨le_rfl, Or.inl rfl⟩
  | some i =>
    obtain ⟨rung, own, above⟩ := getElem?_heldIndex? held
    rw [Option.bind_some, own]
    exact ⟨Int.natCast_nonneg _, Or.inr (exceeded rung above)⟩

/-- The shares of the way to a rung from the one that is held, in contributions and in active days. -/
def sharesTo (ladder : Ladder) (next : Rung) (c d : Int) : ℚ × ℚ :=
  (stepProgress c (ladder.ground (ladder.heldIndex? c d) Rung.contributions) next.contributions,
    stepProgress d (ladder.ground (ladder.heldIndex? c d) Rung.activeDays) next.activeDays)

/-- The progress to the rung above, by divisions that are checked; on the last rung there is none. -/
def checkedProgress (ladder : Ladder) (c d : Int) : Except QuotientFault ℚ :=
  match ladder.rungAbove? (ladder.heldIndex? c d) with
  | none => .ok 0
  | some next => do
    let first ← checkedShare c (ladder.ground (ladder.heldIndex? c d) Rung.contributions) next.contributions
    let second ← checkedShare d (ladder.ground (ladder.heldIndex? c d) Rung.activeDays) next.activeDays
    return max 0 (min 1 (min first second))

/-- The checked divisions give the progress of the level, or fail where it cannot be measured. -/
lemma checkedProgress_eq (ladder : Ladder) (c d : Int) : ladder.checkedProgress c d =
    if ladder.isMeasurable c d then .ok (ladder.level c d).progress else .error .overflow := by
  unfold checkedProgress isMeasurable shares?
  cases above : ladder.rungAbove? (ladder.heldIndex? c d) with
  | none =>
    rw [progress_of_top above]
    rfl
  | some next =>
    rw [progress_eq above]
    dsimp only
    rw [checkedShare_eq, checkedShare_eq]
    show _ = if (isWithinDoubles _ && isWithinDoubles _) then _ else _
    cases isWithinDoubles (stepProgress c (ladder.ground (ladder.heldIndex? c d) Rung.contributions) next.contributions)
    · rfl
    · cases isWithinDoubles (stepProgress d (ladder.ground (ladder.heldIndex? c d) Rung.activeDays) next.activeDays) <;>
        rfl

/-- A level can be measured exactly when both shares to the rung above are of a size below the limit of the doubles. -/
lemma isMeasurable_iff (ladder : Ladder) (c d : Int) : ladder.isMeasurable c d = true ↔
    ∀ next ∈ ladder.rungAbove? (ladder.heldIndex? c d),
      |(ladder.sharesTo next c d).1| < limit ∧ |(ladder.sharesTo next c d).2| < limit := by
  unfold isMeasurable shares?
  cases ladder.rungAbove? (ladder.heldIndex? c d) with
  | none => exact iff_of_true rfl nofun
  | some next =>
    show (isWithinDoubles _ && isWithinDoubles _) = true ↔ _
    rw [Bool.and_eq_true, isWithinDoubles_iff, isWithinDoubles_iff]
    exact ⟨fun small _ same => by cases same; exact small, fun small => small next rfl⟩

/-- The level of totals that lie within the doubles can be measured. -/
theorem measure_eq_ok_level (ladder : Ladder) (small : |(c : ℚ)| < limit) (small' : |(d : ℚ)| < limit) :
    ladder.measure c d = .ok (ladder.level c d) := by
  have ground := ladder.ground_le (c := c) (d := d) Rung.contributions fun _ h => (Rung.isExceeded_iff.1 h).1
  have ground' := ladder.ground_le (c := c) (d := d) Rung.activeDays fun _ h => (Rung.isExceeded_iff.1 h).2
  refine if_pos ((ladder.isMeasurable_iff c d).2 fun next _ => ⟨?_, ?_⟩)
  · exact (abs_stepProgress_le _ ground.1 ground.2).trans_lt (max_lt one_lt_limit small)
  · exact (abs_stepProgress_le _ ground'.1 ground'.2).trans_lt (max_lt one_lt_limit small')

end Ladder

/-! ## Reached levels -/

/-- What a level is on a ladder whose rungs stand in any order, in exact numbers and in doubles. -/
structure Level.IsReached (l : Level) (ladder : Ladder) (c d : Int) : Prop where
  /-- Its rung is the last one in the list whose thresholds are both exceeded. -/
  rung : l.rung = (ladder.filter (·.isExceeded c d)).getLast?
  /-- It has no rung exactly when there is no such one. -/
  ground : l.rung = Option.none ↔ ∀ r ∈ ladder, r.isExceeded c d = false
  /-- Its index is the place of the rung in the list; without a rung it is -1. -/
  place : l.rung = Option.none ∧ l.index = -1 ∨ ∃ i : Nat, l.index = i ∧ i < ladder.length ∧ l.rung = ladder[i]? ∧
    ∀ j r, i < j → ladder[j]? = some r → r.isExceeded c d = false
  /-- The progress is a fraction, and 0 on the last rung. -/
  fraction : 0 ≤ l.progress ∧ l.progress ≤ 1 ∧ (l.index + 1 = ladder.length → l.progress = 0)
  /-- The rank lies between the height and the next, and not above the number of rungs. -/
  rank : (l.index : ℚ) + 1 ≤ l.sortOrder ∧ l.sortOrder ≤ min ((l.index : ℚ) + 2) ladder.length
  /-- So do they as doubles, the rank as long as the number of rungs is exact as a double. -/
  shown : IsBetween 0 1 l.shownProgress ∧ (l.index + 1 = ladder.length → l.shownProgress = 0) ∧
    (ladder.length ≤ 2 ^ 53 →
      IsBetween ((l.index : ℚ) + 1) (min ((l.index : ℚ) + 2) ladder.length) l.shownSortOrder)

namespace Ladder

lemma place_level (ladder : Ladder) (c d : Int) :
    (ladder.level c d).rung = none ∧ (ladder.level c d).index = -1 ∨
      ∃ i : Nat, (ladder.level c d).index = i ∧ i < ladder.length ∧ (ladder.level c d).rung = ladder[i]? ∧
        ∀ j r, i < j → ladder[j]? = some r → r.isExceeded c d = false := by
  unfold level
  dsimp only
  cases held : ladder.heldIndex? c d with
  | none => exact Or.inl ⟨rfl, rfl⟩
  | some i =>
    obtain ⟨own, listed, -⟩ := getElem?_heldIndex? held
    refine Or.inr ⟨i, rfl, (List.getElem?_eq_some_iff.1 listed).1, rfl, fun j r later listed' => ?_⟩
    by_contra exceeded
    have inside := lt_height_of_isExceeded listed' ((Bool.not_eq_false _).mp exceeded)
    rw [height_of_heldIndex? held] at inside
    omega

lemma sortOrder_bounds (ladder : Ladder) (c d : Int) : (ladder.height c d : ℚ) ≤ (ladder.level c d).sortOrder ∧
    (ladder.level c d).sortOrder ≤ min ((ladder.height c d : ℚ) + 1) ladder.length := by
  rw [sortOrder_eq]
  refine ⟨le_add_of_nonneg_right (progress_nonneg ladder c d), le_min ?_ ?_⟩
  · exact add_le_add_right (progress_le_one ladder c d) _
  -- below the last rung the next height is one of the ladder, and on it there is no progress
  · rcases (height_le_length ladder c d).lt_or_eq with below | top
    · have next : (ladder.height c d : ℚ) + 1 ≤ ladder.length := by exact_mod_cast below
      exact (add_le_add_right (progress_le_one ladder c d) _).trans next
    · rw [progress_of_top (List.getElem?_eq_none top.ge), top, add_zero]

lemma isBetween_shownSortOrder {ladder : Ladder} (exact : ladder.length ≤ 2 ^ 53) (c d : Int) :
    IsBetween (ladder.height c d) (min ((ladder.height c d : ℚ) + 1) ladder.length)
      (ladder.level c d).shownSortOrder := by
  have place : (ladder.level c d).index + 1 = ladder.height c d := by
    rw [index_level, Int.sub_add_cancel]
  rw [Level.shownSortOrder, place, Level.shownProgress]
  rcases (height_le_length ladder c d).lt_or_eq with below | top
  · have next : (ladder.height c d : ℚ) + 1 ≤ ladder.length := by exact_mod_cast below
    rw [min_eq_left next]
    exact Number.isBetween_ofInt_add (by omega) (Number.isBetween_ofRat (progress_nonneg ladder c d)
      (progress_le_one ladder c d))
  · rw [progress_of_top (List.getElem?_eq_none top.ge), top, min_eq_right (le_add_of_nonneg_right zero_le_one)]
    exact Number.isBetween_ofInt_add_zero exact

lemma isReached_level (ladder : Ladder) (c d : Int) : (ladder.level c d).IsReached ladder c d := by
  have index : ((ladder.level c d).index : ℚ) = ladder.height c d - 1 := by
    rw [index_level]
    push_cast
    rfl
  have top : (ladder.level c d).index + 1 = ladder.length → (ladder.level c d).progress = 0 := by
    intro last
    rw [index_level] at last
    exact progress_of_top (List.getElem?_eq_none (by omega))
  refine ⟨rungAt?_heldIndex? ladder c d, ?_, place_level ladder c d,
    ⟨progress_nonneg ladder c d, progress_le_one ladder c d, top⟩, ?_, ?_, ?_, ?_⟩
  · show ladder.rungAt? (ladder.heldIndex? c d) = none ↔ _
    rw [rungAt?_heldIndex?, List.getLast?_eq_none_iff, List.filter_eq_nil_iff]
    simp
  · rw [index, sub_add_cancel, show (ladder.height c d : ℚ) - 1 + 2 = ladder.height c d + 1 by ring]
    exact sortOrder_bounds ladder c d
  · exact Number.isBetween_ofRat (progress_nonneg ladder c d) (progress_le_one ladder c d)
  · intro last
    rw [Level.shownProgress, top last]
    rfl
  · intro exact
    rw [index, sub_add_cancel, show (ladder.height c d : ℚ) - 1 + 2 = ladder.height c d + 1 by ring]
    exact isBetween_shownSortOrder exact c d

/-- On every ladder, in whichever order its rungs are listed, no share of the way to the rung above is divided by 0; a
level cannot be measured exactly when one of the two shares lies beyond the doubles, which is never so when the totals
lie within them. The level that is measured is that of the last rung whose thresholds are both exceeded, its progress is
the one that the checked divisions give, and it keeps the bounds of `Level.IsReached`. Where no threshold descends, its
height is the number of rungs whose thresholds are exceeded. -/
theorem measure_in_any_order (ladder : Ladder) (c d : Int) :
    ladder.checkedProgress c d ≠ .error .byZero ∧
    (∀ fault, ladder.measure c d = .error fault ↔ fault = .share ∧ ladder.checkedProgress c d = .error .overflow) ∧
    (ladder.checkedProgress c d = .error .overflow ↔ ∃ next ∈ ladder.rungAbove? (ladder.heldIndex? c d),
      limit ≤ |(ladder.sharesTo next c d).1| ∨ limit ≤ |(ladder.sharesTo next c d).2|) ∧
    (|(c : ℚ)| < limit → |(d : ℚ)| < limit → ∃ l, ladder.measure c d = .ok l) ∧
    ∀ l, ladder.measure c d = .ok l → ladder.checkedProgress c d = .ok l.progress ∧ l.IsReached ladder c d ∧
      (ladder.IsNondecreasing → l.index + 1 = ladder.countP (·.isExceeded c d)) := by
  have beyond : ladder.isMeasurable c d = false ↔ ∃ next ∈ ladder.rungAbove? (ladder.heldIndex? c d),
      limit ≤ |(ladder.sharesTo next c d).1| ∨ limit ≤ |(ladder.sharesTo next c d).2| := by
    rw [← Bool.not_eq_true, isMeasurable_iff]
    push Not
    simp only [Classical.or_iff_not_imp_left, not_le]
  -- whether the shares are within the doubles decides both the checked divisions and the outcome
  rw [← beyond, checkedProgress_eq, measure]
  have small := @measure_eq_ok_level c d ladder
  rw [measure] at small
  generalize ladder.isMeasurable c d = measurable at small ⊢
  cases measurable with
  | false =>
    refine ⟨nofun, fun fault => ⟨fun same => ⟨by cases same; rfl, rfl⟩, fun same => by rw [same.1]; rfl⟩,
      iff_of_true rfl rfl, fun le le' => ⟨_, small le le'⟩, nofun⟩
  | true =>
    refine ⟨nofun, fun fault => ⟨nofun, fun same => nomatch same.2⟩, ⟨nofun, nofun⟩, fun _ _ => ⟨_, rfl⟩, ?_⟩
    rintro _ ⟨⟩
    refine ⟨rfl, isReached_level ladder c d, fun ordered => ?_⟩
    rw [index_level, Int.sub_add_cancel, height_eq_countP ordered]

/-- Two rungs of which the second asks for fewer contributions, and for more active days. -/
def mixed : Ladder := [⟨"regular", "Regular", 10, 2⟩, ⟨"steady", "Steady", 5, 9⟩]

/-- On the first of two mixed rungs the way to the second is covered in contributions, and two sevenths of it in active
days. Small totals are within the doubles. On two rungs that do not descend the index tells the number of rungs whose
thresholds are exceeded. -/
theorem measured_on_mixed :
    (mixed.measure 12 4 = .ok ⟨mixed[0]?, 0, 2 / 7⟩ ∧ mixed.checkedProgress 12 4 = .ok (2 / 7) ∧
      Level.IsReached ⟨mixed[0]?, 0, 2 / 7⟩ mixed 12 4) ∧
    (|((6 : Int) : ℚ)| < limit ∧ |((10 : Int) : ℚ)| < limit ∧ ∃ l, mixed.measure 6 10 = .ok l) ∧
    flat.IsNondecreasing ∧ flat.measure 11 2 = .ok ⟨flat[1]?, 1, 0⟩ ∧
      (1 : Int) + 1 = flat.countP (·.isExceeded 11 2) := by
  have measured : mixed.measure 12 4 = .ok ⟨mixed[0]?, 0, 2 / 7⟩ := by decide +kernel
  have measured' : flat.measure 11 2 = .ok ⟨flat[1]?, 1, 0⟩ := by decide +kernel
  have small : |((6 : Int) : ℚ)| < limit := (isWithinDoubles_iff _).1 (by decide +kernel)
  have small' : |((10 : Int) : ℚ)| < limit := (isWithinDoubles_iff _).1 (by decide +kernel)
  have ordered : flat.IsNondecreasing := by decide
  obtain ⟨progress, reached, -⟩ := (measure_in_any_order mixed 12 4).2.2.2.2 _ measured
  obtain ⟨-, -, counted⟩ := (measure_in_any_order flat 11 2).2.2.2.2 _ measured'
  have finite := (measure_in_any_order mixed 6 10).2.2.2.1 small small'
  exact ⟨⟨measured, progress, reached⟩, ⟨small, small', finite⟩, ordered, measured', counted ordered⟩

/-- One rung. -/
def single : Ladder := [⟨"l1", "L1", 1, 1⟩]

/-- With 10 ^ 309 contributions and no active day there is no level on a ladder of one rung: the share in contributions
lies beyond the doubles. -/
theorem measure_of_single_beyond :
    single.measure (10 ^ 309) 0 = .error .share ∧ ¬ ∃ l, single.measure (10 ^ 309) 0 = .ok l := by
  have beyond : single.measure (10 ^ 309) 0 = .error .share := by
    rw [measure, if_neg]
    decide +kernel
  exact ⟨beyond, by rw [beyond]; nofun⟩

end Ladder

end ActivityReport
