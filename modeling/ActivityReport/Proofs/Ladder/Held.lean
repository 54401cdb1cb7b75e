import ActivityReport.Ladder.Level
import Mathlib.Tactic.Lemma

/-!
# The rung that is held

Which rung of a ladder an actor stands on. A rung whose thresholds are exceeded is held, or a later one is
(`Ladder.exists_heldIndex?_of_isExceeded`), and the rung that is held is one whose thresholds are exceeded. So
the number of rungs up to it (`Ladder.height`) does not fall when totals grow, in whichever order the rungs are
listed.
-/

namespace ActivityReport

lemma Rung.isExceeded_iff {r : Rung} {c d : Int} :
    r.isExceeded c d = true ↔ (r.contributions : Int) < c ∧ (r.activeDays : Int) < d := by
  simp only [isExceeded, Bool.and_eq_true, decide_eq_true_eq]

/-- Thresholds that are exceeded are exceeded by larger totals. -/
lemma Rung.isExceeded_mono {r : Rung} {c c' d d' : Int} (more : c ≤ c') (longer : d ≤ d')
    (h : r.isExceeded c d = true) : r.isExceeded c' d' = true := by
  rw [isExceeded_iff] at h ⊢
  omega

namespace Ladder

variable {ladder : Ladder} {c c' d d' : Int} {i : Nat}

/-- The rung at the place that is held is one whose thresholds are exceeded. -/
lemma getElem?_heldIndex? {ladder : Ladder} {contributions activeDays : Int} {i : Nat}
    (h : ladder.heldIndex? contributions activeDays = some i) :
    ∃ rung, ladder[i]? = some rung ∧ rung.isExceeded contributions activeDays = true := by
  induction ladder generalizing i with
  | nil => cases h
  | cons rung rest ih =>
    rw [heldIndex?] at h
    split at h
    · rename_i found
      cases h
      exact ih found
    · split at h
      · rename_i exceeded
        cases h
        exact ⟨rung, rfl, exceeded⟩
      · cases h

/-- A rung whose thresholds are exceeded is held, or a later one is. -/
lemma exists_heldIndex?_of_isExceeded {rung : Rung} (listed : ladder[i]? = some rung)
    (exceeded : rung.isExceeded c d = true) : ∃ j, ladder.heldIndex? c d = some j ∧ i ≤ j := by
  induction ladder generalizing i with
  | nil => cases listed
  | cons first rest ih =>
    rw [heldIndex?]
    cases held : heldIndex? rest c d with
    | some j =>
      refine ⟨j + 1, rfl, ?_⟩
      cases i with
      | zero => exact Nat.zero_le _
      | succ i =>
        obtain ⟨j', held', le⟩ := ih listed
        cases held.symm.trans held'
        exact Nat.succ_le_succ le
    | none =>
      cases i with
      | zero =>
        cases listed
        exact ⟨0, if_pos exceeded, Nat.le_refl _⟩
      | succ i =>
        obtain ⟨j', held', -⟩ := ih listed
        cases held.symm.trans held'

/-! ## Heights -/

/-- The number of rungs up to the one that is held; on the ground it is 0. -/
def height (ladder : Ladder) (contributions activeDays : Int) : Nat :=
  ((ladder.heldIndex? contributions activeDays).map (· + 1)).getD 0

lemma height_of_heldIndex? (h : ladder.heldIndex? c d = some i) : ladder.height c d = i + 1 := by
  rw [height, h]
  rfl

lemma height_of_ground (h : ladder.heldIndex? c d = none) : ladder.height c d = 0 := by
  rw [height, h]
  rfl

/-- The index of a level tells its height. -/
lemma index_level (ladder : Ladder) (c d : Int) : (ladder.level c d).index = (ladder.height c d : Int) - 1 := by
  show ((ladder.heldIndex? c d).map fun i => (i : Int)).getD (-1) = _
  cases held : ladder.heldIndex? c d with
  | none =>
    rw [height_of_ground held]
    rfl
  | some i =>
    rw [height_of_heldIndex? held]
    show (i : Int) = _
    omega

/-- The rung above is the one at the height. -/
lemma rungAbove?_heldIndex? (ladder : Ladder) (c d : Int) :
    ladder.rungAbove? (ladder.heldIndex? c d) = ladder[ladder.height c d]? := rfl

/-- The height tells the place. -/
lemma heldIndex?_eq_of_height_eq (same : ladder.height c d = ladder.height c' d') :
    ladder.heldIndex? c d = ladder.heldIndex? c' d' := by
  unfold height at same
  cases held : ladder.heldIndex? c d <;> cases held' : ladder.heldIndex? c' d' <;> simp_all

lemma height_le_length (ladder : Ladder) (c d : Int) : ladder.height c d ≤ ladder.length := by
  cases held : ladder.heldIndex? c d with
  | none =>
    rw [height_of_ground held]
    exact Nat.zero_le _
  | some i =>
    obtain ⟨rung, listed, -⟩ := getElem?_heldIndex? held
    rw [height_of_heldIndex? held]
    exact (List.getElem?_eq_some_iff.1 listed).1

/-- The height reaches over every rung whose thresholds are exceeded. -/
lemma lt_height_of_isExceeded {rung : Rung} (listed : ladder[i]? = some rung)
    (exceeded : rung.isExceeded c d = true) : i < ladder.height c d := by
  obtain ⟨j, held, le⟩ := exists_heldIndex?_of_isExceeded listed exceeded
  rw [height_of_heldIndex? held]
  exact Nat.lt_succ_of_le le

/-- With larger totals the height does not fall. -/
lemma height_mono (ladder : Ladder) (more : c ≤ c') (longer : d ≤ d') : ladder.height c d ≤ ladder.height c' d' := by
  cases held : ladder.heldIndex? c d with
  | none =>
    rw [height_of_ground held]
    exact Nat.zero_le _
  | some i =>
    obtain ⟨rung, listed, exceeded⟩ := getElem?_heldIndex? held
    rw [height_of_heldIndex? held]
    exact lt_height_of_isExceeded listed (Rung.isExceeded_mono more longer exceeded)

end Ladder

end ActivityReport
