import ActivityReport.Proofs.Ladder.Held
import Mathlib

/-!
# The order of levels

How levels are ranked. The rank of a level is its height with the progress to the rung above, and the progress
lies between 0 and 1 (`Ladder.sortOrder_eq`, `Ladder.progress_nonneg`, `Ladder.progress_le_one`). Larger totals
never have a lower rank (`Ladder.sortOrder_mono`). A lower rung has a lower rank as long as the progress from it
does not come to 1 where the rung above is the last one, on which progress is 0 (`Ladder.sortOrder_of_lower`).
-/

namespace ActivityReport

/-! ## Shares -/

lemma clampFraction_eq (r : Rat) : clampFraction r = max 0 (min 1 r) := by
  unfold clampFraction
  split
  · rename_i le
    exact (max_eq_left ((min_le_right _ _).trans le)).symm
  split
  · rename_i le
    rw [min_eq_left le, max_eq_right zero_le_one]
  · rename_i notLe notGe
    rw [min_eq_right (not_le.1 notGe).le, max_eq_right (not_le.1 notLe).le]

/-- The share of a step with width is a quotient. -/
lemma stepProgress_of_lt {value current target : Int} (wide : current < target) :
    stepProgress value current target = ((value - current : Int) : ℚ) / ((target - current : Int) : ℚ) := by
  rw [stepProgress, if_neg (not_le.2 wide), Rat.mkRat_eq_div, ← Int.cast_natCast, Int.toNat_of_nonneg (by omega)]

/-- A larger total has covered no smaller share of a step. -/
lemma stepProgress_mono (current target : Int) : Monotone (stepProgress · current target) := by
  intro value value' more
  by_cases wide : current < target
  · show stepProgress value current target ≤ stepProgress value' current target
    rw [stepProgress_of_lt wide, stepProgress_of_lt wide]
    have width : (0 : ℚ) ≤ ((target - current : Int) : ℚ) := by exact_mod_cast (by omega)
    gcongr
  · simp only [stepProgress, if_pos (not_lt.1 wide), le_refl]

/-- A step is covered when its end is reached, or when it has no width. -/
lemma one_le_stepProgress {value current target : Int} :
    1 ≤ stepProgress value current target ↔ target ≤ max current value := by
  by_cases wide : current < target
  · have width : (0 : ℚ) < ((target - current : Int) : ℚ) := by exact_mod_cast (by omega)
    rw [stepProgress_of_lt wide, one_le_div width, Int.cast_le]
    omega
  · simp only [stepProgress, if_pos (not_lt.1 wide), le_refl, true_iff]
    omega

/-- Some of a step is covered as soon as its beginning is exceeded. -/
lemma stepProgress_pos {value current target : Int} (exceeded : current < value) :
    0 < stepProgress value current target := by
  by_cases wide : current < target
  · rw [stepProgress_of_lt wide]
    exact div_pos (by exact_mod_cast (by omega)) (by exact_mod_cast (by omega))
  · rw [stepProgress, if_pos (not_lt.1 wide)]
    exact zero_lt_one

namespace Ladder

variable {ladder : Ladder} {c c' d d' : Int} {next : Rung}

/-! ## Progress -/

/-- The rank of a level is its height with the progress. -/
lemma sortOrder_eq (ladder : Ladder) (c d : Int) :
    (ladder.level c d).sortOrder = ladder.height c d + (ladder.level c d).progress := by
  rw [Level.sortOrder, index_level, Int.sub_add_cancel, Int.cast_natCast]

/-- On the last rung there is no progress. -/
lemma progress_of_top (top : ladder[ladder.height c d]? = none) : (ladder.level c d).progress = 0 := by
  unfold level shares?
  dsimp only
  rw [rungAbove?_heldIndex?, top]
  rfl

/-- The progress to the rung above is the smaller share, kept between 0 and 1. -/
lemma progress_eq (above : ladder[ladder.height c d]? = some next) :
    (ladder.level c d).progress = max 0 (min 1 (min
      (stepProgress c (ladder.ground (ladder.heldIndex? c d) Rung.contributions) next.contributions)
      (stepProgress d (ladder.ground (ladder.heldIndex? c d) Rung.activeDays) next.activeDays))) := by
  unfold level shares?
  dsimp only
  rw [rungAbove?_heldIndex?, above]
  show clampFraction _ = _
  dsimp only
  rw [clampFraction_eq, ← min_def_lt, min_comm (stepProgress d _ _)]

lemma progress_nonneg (ladder : Ladder) (c d : Int) : 0 ≤ (ladder.level c d).progress := by
  cases above : ladder[ladder.height c d]? with
  | none => rw [progress_of_top above]
  | some next =>
    rw [progress_eq above]
    exact le_max_left _ _

lemma progress_le_one (ladder : Ladder) (c d : Int) : (ladder.level c d).progress ≤ 1 := by
  cases above : ladder[ladder.height c d]? with
  | none =>
    rw [progress_of_top above]
    exact zero_le_one
  | some next =>
    rw [progress_eq above]
    exact max_le zero_le_one (min_le_left _ _)

/-- From one rung larger totals have made no less progress. -/
lemma progress_mono (more : c ≤ c') (longer : d ≤ d') (same : ladder.height c d = ladder.height c' d') :
    (ladder.level c d).progress ≤ (ladder.level c' d').progress := by
  cases above : ladder[ladder.height c d]? with
  | none =>
    rw [progress_of_top above]
    exact progress_nonneg ladder c' d'
  | some next =>
    have above' : ladder[ladder.height c' d']? = some next := same ▸ above
    rw [progress_eq above, progress_eq above', heldIndex?_eq_of_height_eq same]
    exact max_le_max_left _ (min_le_min_left _ (min_le_min (stepProgress_mono _ _ more) (stepProgress_mono _ _ longer)))

/-- A higher rung never has a lower rank: the progress made on the lower one comes to no more than a rung. -/
lemma sortOrder_le_of_height_lt (lower : ladder.height c d < ladder.height c' d') :
    (ladder.level c d).sortOrder ≤ (ladder.level c' d').sortOrder := by
  have next : (ladder.height c d : ℚ) + 1 ≤ ladder.height c' d' := by exact_mod_cast lower
  rw [sortOrder_eq, sortOrder_eq]
  calc (ladder.height c d : ℚ) + (ladder.level c d).progress
      ≤ ladder.height c d + 1 := add_le_add_right (progress_le_one ladder c d) _
    _ ≤ ladder.height c' d' := next
    _ ≤ ladder.height c' d' + (ladder.level c' d').progress := le_add_of_nonneg_right (progress_nonneg ladder c' d')

/-- Larger totals never have a lower rank, nor a lower index, on any ladder: within a rung the progress does not
fall, and over a change of rung it loses no more than the height gains. -/
theorem sortOrder_mono (ladder : Ladder) {c c' d d' : Int} (more : c ≤ c') (longer : d ≤ d') :
    (ladder.level c d).sortOrder ≤ (ladder.level c' d').sortOrder ∧
      (ladder.level c d).index ≤ (ladder.level c' d').index := by
  have height := height_mono ladder more longer
  refine ⟨?_, by rw [index_level, index_level]; omega⟩
  rcases Nat.lt_or_eq_of_le height with lower | same
  · exact sortOrder_le_of_height_lt lower
  · rw [sortOrder_eq, sortOrder_eq, same]
    exact add_le_add_right (progress_mono more longer same) _

/-- Two rungs that ask for the same number of active days. -/
def flat : Ladder := [⟨"novice", "Novice", 1, 1⟩, ⟨"regular", "Regular", 10, 1⟩]

/-- On two rungs with the same number of active days the way to the second is covered by ten contributions, and with
the eleventh it is held. -/
theorem sortOrder_of_flat :
    ((10 : Int) ≤ 11 ∧ (2 : Int) ≤ 2) ∧ (flat.level 10 2).sortOrder = 2 ∧
      (flat.level 10 2).sortOrder ≤ (flat.level 11 2).sortOrder ∧ (flat.level 10 2).index ≤ (flat.level 11 2).index :=
  ⟨⟨by decide, by decide⟩, by decide +kernel, sortOrder_mono flat (by decide) (by decide)⟩

/-! ## Lower rungs -/

/-- Above a rung that is held some progress is made at once. -/
lemma progress_pos (onRung : 0 < ladder.height c d) (above : ladder[ladder.height c d]? = some next) :
    0 < (ladder.level c d).progress := by
  cases held : ladder.heldIndex? c d with
  | none =>
    rw [height_of_ground held] at onRung
    exact absurd onRung (lt_irrefl _)
  | some i =>
    obtain ⟨rung, listed, exceeded⟩ := getElem?_heldIndex? held
    rw [Rung.isExceeded_iff] at exceeded
    have ground : ∀ threshold, ladder.ground (ladder.heldIndex? c d) threshold = threshold rung := by
      intro threshold
      rw [held, Ladder.ground, rungAt?, Option.bind_some, listed]
      rfl
    rw [progress_eq above, ground, ground]
    exact lt_max_of_lt_right
      (lt_min zero_lt_one (lt_min (stepProgress_pos exceeded.1) (stepProgress_pos exceeded.2)))

/-- Where a threshold ascends, the way to the rung above is covered when its threshold is met, a negative total
counting as 0. -/
lemma le_max_ground_iff {threshold : Rung → Nat} (ascending : ladder.Pairwise fun r r' => threshold r < threshold r')
    (above : ladder[ladder.height c d]? = some next) (value : Int) :
    threshold next ≤ max (ladder.ground (ladder.heldIndex? c d) threshold) value ↔ threshold next ≤ max 0 value := by
  cases held : ladder.heldIndex? c d with
  | none => exact Iff.rfl
  | some i =>
    obtain ⟨rung, listed, -⟩ := getElem?_heldIndex? held
    obtain ⟨inside, same⟩ := List.getElem?_eq_some_iff.1 listed
    obtain ⟨inside', same'⟩ := List.getElem?_eq_some_iff.1 above
    have less : threshold rung < threshold next := by
      rw [← same, ← same']
      exact List.pairwise_iff_getElem.1 ascending _ _ _ _ (by rw [height_of_heldIndex? held]; exact Nat.lt_succ_self i)
    have ground : ladder.ground (some i) threshold = threshold rung := by
      rw [Ladder.ground, rungAt?, Option.bind_some, listed]
      rfl
    rw [ground]
    omega

end Ladder

/-- Whether both thresholds of a rung are met; a negative total counts as 0. -/
def Rung.IsMet (r : Rung) (contributions activeDays : Int) : Prop :=
  r.contributions ≤ max 0 contributions ∧ r.activeDays ≤ max 0 activeDays

namespace Ladder

variable {ladder : Ladder} {c c' d d' : Int} {next : Rung}

/-- Whether both thresholds ascend from rung to rung. -/
def IsAscending (ladder : Ladder) : Prop :=
  ladder.Pairwise fun r r' => r.contributions < r'.contributions ∧ r.activeDays < r'.activeDays

instance (ladder : Ladder) : Decidable ladder.IsAscending := inferInstanceAs (Decidable (List.Pairwise _ _))

/-- Whether totals lie at the edge of the last rung: it is the rung above theirs, and both its thresholds are met. -/
def IsAtEdge (ladder : Ladder) (contributions activeDays : Int) : Prop :=
  ladder.height contributions activeDays + 1 = ladder.length ∧
    ∃ top ∈ ladder[ladder.height contributions activeDays]?, top.IsMet contributions activeDays

/-- On an ascending ladder the progress comes to 1 exactly when the thresholds of the rung above are met. -/
lemma progress_eq_one_iff (ascending : ladder.IsAscending) (above : ladder[ladder.height c d]? = some next) :
    (ladder.level c d).progress = 1 ↔ next.IsMet c d := by
  have whole : ∀ share : ℚ, max 0 (min 1 share) = 1 ↔ 1 ≤ share := by
    intro share
    constructor
    · intro one
      by_contra less
      rw [min_eq_right (not_le.1 less).le] at one
      rcases max_choice 0 share with zero | own
      · exact zero_ne_one (zero.symm.trans one)
      · exact less (own.symm.trans one).ge
    · intro le
      rw [min_eq_left le, max_eq_right zero_le_one]
  rw [progress_eq above, whole, le_min_iff, one_le_stepProgress, one_le_stepProgress,
    le_max_ground_iff (ascending.imp And.left) above, le_max_ground_iff (ascending.imp And.right) above]
  exact Iff.rfl

/-- On an ascending ladder the rank of a lower rung comes up to that of a higher one only where the higher one is the
last and the totals of the lower one lie at its edge. -/
lemma sortOrder_lt_iff (ascending : ladder.IsAscending) (lower : ladder.height c d < ladder.height c' d') :
    (ladder.level c d).sortOrder < (ladder.level c' d').sortOrder ↔
      ¬ (ladder.height c' d' = ladder.length ∧ ladder.IsAtEdge c d) := by
  have gap : (ladder.height c d : ℚ) + 1 ≤ ladder.height c' d' := by exact_mod_cast lower
  have most := progress_le_one ladder c d
  rw [sortOrder_eq, sortOrder_eq]
  cases above' : ladder[ladder.height c' d']? with
  | some next =>
    -- below the last rung the higher rung has some progress, and a tie would need more than the lower one can make
    have notTop : ladder.height c' d' ≠ ladder.length := by
      intro top
      rw [top, List.getElem?_eq_none le_rfl] at above'
      cases above'
    have made := progress_pos (Nat.zero_lt_of_lt lower) above'
    simp only [notTop, false_and, not_false_eq_true, iff_true]
    linarith
  | none =>
    have top : ladder.height c' d' = ladder.length :=
      le_antisymm (height_le_length ladder c' d') (List.getElem?_eq_none_iff.1 above')
    rw [progress_of_top above', add_zero, top]
    rw [top] at gap lower
    have edge : ladder.IsAtEdge c d ↔ ladder.height c d + 1 = ladder.length ∧ (ladder.level c d).progress = 1 := by
      refine and_congr_right fun belowTop => ?_
      have above := List.getElem?_eq_getElem lower
      rw [progress_eq_one_iff ascending above, above]
      exact ⟨fun ⟨_, rfl, met⟩ => met, fun met => ⟨_, rfl, met⟩⟩
    rw [edge, eq_self_iff_true, true_and, not_and]
    constructor
    · intro less belowTop whole
      rw [whole, ← Nat.cast_add_one, belowTop] at less
      exact lt_irrefl _ less
    · intro notEdge
      by_contra notLess
      have whole : (ladder.level c d).progress = 1 := by linarith
      have belowTop : ((ladder.height c d : ℚ) + 1) = ladder.length := by linarith
      exact notEdge (by exact_mod_cast belowTop) whole

/-- On a ladder that ascends in both thresholds a lower rung never has a higher rank than a higher one, and it has a
lower rank unless the higher rung is the last and the totals of the lower one lie at its edge. So only there does
an order by rank, from the highest down, place a lower rung before a higher one. -/
theorem sortOrder_of_lower (ladder : Ladder) (ascending : ladder.IsAscending) :
    (∀ c d c' d', (ladder.level c d).index < (ladder.level c' d').index →
      (ladder.level c d).sortOrder ≤ (ladder.level c' d').sortOrder ∧
      ((ladder.level c d).sortOrder < (ladder.level c' d').sortOrder ↔
        ¬ ((ladder.level c' d').index + 1 = ladder.length ∧ ladder.IsAtEdge c d))) ∧
    ∀ totals : List (Int × Int),
      totals.Pairwise (fun t t' => (ladder.level t'.1 t'.2).sortOrder ≤ (ladder.level t.1 t.2).sortOrder) →
      totals.Pairwise fun t t' => (ladder.level t'.1 t'.2).index ≤ (ladder.level t.1 t.2).index ∨
        (ladder.level t'.1 t'.2).index + 1 = ladder.length ∧ ladder.IsAtEdge t.1 t.2 := by
  have strict : ∀ c d c' d', (ladder.level c d).index < (ladder.level c' d').index →
      ((ladder.level c d).sortOrder < (ladder.level c' d').sortOrder ↔
        ¬ ((ladder.level c' d').index + 1 = ladder.length ∧ ladder.IsAtEdge c d)) := by
    intro c d c' d' lower
    rw [index_level, index_level] at lower
    rw [sortOrder_lt_iff ascending (by omega), index_level, Int.sub_add_cancel, Nat.cast_inj]
  refine ⟨fun c d c' d' lower => ⟨?_, strict c d c' d' lower⟩, fun totals sorted => sorted.imp ?_⟩
  · rw [index_level, index_level] at lower
    exact sortOrder_le_of_height_lt (by omega)
  · intro t t' notLess
    by_contra neither
    obtain ⟨lower, notTie⟩ := not_or.1 neither
    exact notLess.not_gt ((strict _ _ _ _ (not_le.1 lower)).2 notTie)

/-- Three rungs, each asking for more than the one below. -/
def steep : Ladder :=
  [⟨"novice", "Novice", 0, 0⟩, ⟨"regular", "Regular", 10, 2⟩, ⟨"veteran", "Veteran", 100, 20⟩]

/-- On three rungs, totals on the second that meet the thresholds of the third have the rank of the third. -/
theorem sortOrder_of_steep :
    steep.IsAscending ∧ (steep.level 10 2).sortOrder < (steep.level 11 3).sortOrder ∧
      (steep.level 100 20).sortOrder = (steep.level 900 90).sortOrder ∧
      [(900, 90), (100, 20), (11, 3), (10, 2)].Pairwise fun t t' : Int × Int =>
        (steep.level t'.1 t'.2).index ≤ (steep.level t.1 t.2).index ∨
          (steep.level t'.1 t'.2).index + 1 = steep.length ∧ steep.IsAtEdge t.1 t.2 :=
  have ascending : steep.IsAscending := by decide
  ⟨ascending,
    ((sortOrder_of_lower steep ascending).1 10 2 11 3 (by decide +kernel)).2.2 fun tie =>
      absurd tie.1 (by decide +kernel),
    by decide +kernel, (sortOrder_of_lower steep ascending).2 _ (by decide +kernel)⟩

/-- Two rungs, each asking for more than the one below. -/
def short : Ladder := [⟨"l1", "L1", 1, 1⟩, ⟨"l2", "L2", 10, 2⟩]

/-- On two rungs, totals on the first that meet the thresholds of the second have no lower rank than totals on the
second, and an order by rank may place them first. -/
theorem sortOrder_not_lt_at_edge :
    short.IsAscending ∧ (short.level 10 3).index < (short.level 11 3).index ∧
      ¬ (short.level 10 3).sortOrder < (short.level 11 3).sortOrder ∧
      [(10, 3), (11, 3)].Pairwise (fun t t' : Int × Int =>
        (short.level t'.1 t'.2).sortOrder ≤ (short.level t.1 t.2).sortOrder) ∧
      ¬ [(10, 3), (11, 3)].Pairwise fun t t' : Int × Int =>
        (short.level t'.1 t'.2).index ≤ (short.level t.1 t.2).index := by
  decide +kernel

end Ladder

end ActivityReport
