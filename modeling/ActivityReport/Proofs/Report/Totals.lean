import ActivityReport.Proofs.Number.Overflow
import ActivityReport.Proofs.Query.Shares
import ActivityReport.Proofs.Report.LevelColumns
import ActivityReport.Proofs.Report.Measured

/-!
# Totals that are compared

The total of a counter is compared with a number as in whole numbers, even where it fits no word
(`Store.lt_total_iff`, `Store.total_lt_iff`). Where totals are right and no daily value is negative, a number that is
reached stays reached on later days (`Store.WellKeyed.atLeast_mono`).
-/

namespace ActivityReport.Store

open Number (fitsWord)

variable {s : Store} {k k' : SnapshotKey} {counter : Counter} {actorId n : Int}

/-- A total is above a word exactly when it is so in whole numbers. -/
lemma lt_total_iff (fits : ∀ n ∈ s.integers, fitsWord n = true) (word : fitsWord n = true) :
    Amount.compareInt (s.amount k counter actorId) n = .gt ↔ n < s.total k counter actorId := by
  unfold amount total
  cases latest : s.latestRow? k actorId with
  | none => exact Int.compare_eq_gt
  | some row =>
    obtain ⟨daily, toDate⟩ := mem_integers (latestRow?_eq_some latest).1 counter
    exact Amount.compareInt_add_eq_gt_iff (fits _ toDate) (fits _ daily) word

/-- A total is below a word other than the least one exactly when it is so in whole numbers. -/
lemma total_lt_iff (fits : ∀ n ∈ s.integers, fitsWord n = true) (word : fitsWord n = true) (least : -2 ^ 63 < n) :
    Amount.compareInt (s.amount k counter actorId) n = .lt ↔ s.total k counter actorId < n := by
  unfold amount total
  cases latest : s.latestRow? k actorId with
  | none => exact Int.compare_eq_lt
  | some row =>
    obtain ⟨daily, toDate⟩ := mem_integers (latestRow?_eq_some latest).1 counter
    exact Amount.compareInt_add_eq_lt_iff (fits _ toDate) (fits _ daily) word least

/-- Who has at most a count does not have one more, and the other way round. -/
lemma meets_atMost_iff (fits : ∀ n ∈ s.integers, fitsWord n = true) (word : fitsWord n = true)
    (next : fitsWord (n + 1) = true) :
    Amount.meets .atMost (s.amount k counter actorId) n = true ↔
      ¬ Amount.meets .atLeast (s.amount k counter actorId) (n + 1) = true := by
  have least : -2 ^ 63 < n + 1 := by
    unfold fitsWord at word
    simp only [Bool.and_eq_true, decide_eq_true_eq] at word
    omega
  simp only [Amount.meets, bne_iff_ne, ne_eq, not_not, lt_total_iff fits word, total_lt_iff fits next least]
  omega

/-- The total of an earlier row is no more than what a later row has before its day. -/
lemma WellKeyed.total_le_toDate (keyed : s.WellKeyed) (consistent : s.Consistent)
    (nonNegative : s.IsNonNegative counter) {row row' : CounterRow} (listed : row ∈ s.counters)
    (listed' : row' ∈ s.counters) (subject : row.subject = row'.subject) (scope : row.scope = row'.scope)
    (earlier : row.date < row'.date) : row.toDate counter + row.daily counter ≤ row'.toDate counter := by
  rw [consistent.toDate_eq listed, consistent.toDate_eq listed', ← keyed.sumOn_day listed, subject, scope]
  have both : s.sumOn row'.subject row'.scope counter (fun day => decide (day < row.date) || day == row.date) =
      s.sumOn row'.subject row'.scope counter (· < row.date) +
        s.sumOn row'.subject row'.scope counter (· == row.date) := by
    refine sumOn_eq_add (fun _ _ => rfl) fun other _ => ?_
    by_cases same : other.date = row.date
    · rw [same, decide_eq_false (show ¬ row.date < row.date from Nat.lt_irrefl _), Bool.false_and]
    · rw [beq_false_of_ne same, Bool.and_false]
  rw [← both]
  refine sumOn_mono nonNegative fun day before => decide_eq_true ?_
  rcases Bool.or_eq_true_iff.1 before with less | same
  · exact Nat.lt_trans (of_decide_eq_true less) earlier
  · rw [eq_of_beq same]
    exact earlier

/-- A positive number that is reached stays reached under a key that admits the same days and more. -/
theorem WellKeyed.atLeast_mono (keyed : s.WellKeyed) (consistent : s.Consistent)
    (nonNegative : s.IsNonNegative counter) (fits : ∀ n ∈ s.integers, fitsWord n = true)
    (dimension : k.dimension = k'.dimension) (scope : k.scope = k'.scope)
    (more : ∀ day, k.boundary.admits k.date day = true → k'.boundary.admits k'.date day = true) (pos : 0 < n)
    (reached : Amount.atLeast (s.amount k counter actorId) n = true) :
    Amount.atLeast (s.amount k' counter actorId) n = true := by
  cases latest : s.latestRow? k actorId with
  | none =>
    rw [amount_eq_zero latest, Amount.atLeast, bne_iff_ne] at reached
    exact absurd (Int.compare_eq_lt.2 pos) reached
  | some row =>
    obtain ⟨listed, seen, -⟩ := latestRow?_eq_some latest
    have seen' : k'.sees actorId row = true := by
      simp only [SnapshotKey.sees, Bool.and_eq_true] at seen ⊢
      exact ⟨⟨dimension ▸ seen.1.1, scope ▸ seen.1.2⟩, more _ seen.2⟩
    obtain ⟨row', latest'⟩ := Option.isSome_iff_exists.1 (latestRow?_isSome_iff.2 ⟨row, listed, seen'⟩)
    obtain ⟨listed', own', last⟩ := latestRow?_eq_some latest'
    have alike : row.subject = row'.subject ∧ row.scope = row'.scope := by
      simp only [SnapshotKey.sees, Bool.and_eq_true, beq_iff_eq] at seen' own'
      exact ⟨seen'.1.1.trans own'.1.1.symm, seen'.1.2.trans own'.1.2.symm⟩
    rcases Nat.lt_or_eq_of_le (Date.le_def.1 (last row listed seen')) with earlier | same
    -- the total of an earlier row is carried on by the later one, so it is a word
    · have le := keyed.total_le_toDate consistent nonNegative listed listed' alike.1 alike.2 (Date.lt_def.2 earlier)
      obtain ⟨-, toDate⟩ := mem_integers listed' counter
      have nonneg : 0 ≤ row.toDate counter + row.daily counter := by
        have before : row.toDate counter = s.sumOn row.subject row.scope counter (· < row.date) :=
          consistent.toDate_eq listed
        have : 0 ≤ s.sumOn row.subject row.scope counter (· < row.date) := sumOn_nonneg nonNegative
        have := nonNegative row listed
        omega
      have word := fitsWord_of_le nonneg le (fits _ toDate)
      have atLeast : n ≤ row.toDate counter + row.daily counter := by
        rw [amount, latest, Amount.atLeast, bne_iff_ne] at reached
        simp only [Amount.add_whole word] at reached
        exact not_lt.1 fun less => reached (Int.compare_eq_lt.2 less)
      have := nonNegative row' listed'
      have total : s.total k' counter actorId = row'.toDate counter + row'.daily counter := by
        rw [Store.total, latest', Option.elim_some]
      rw [Amount.atLeast, bne_iff_ne, ne_eq, total_lt_iff fits (fitsWord_of_le pos.le atLeast word) (by omega), total]
      omega
    · have dates : row.date = row'.date := Date.le_antisymm (Date.le_def.2 same.le) (Date.le_def.2 same.ge)
      obtain rfl := keyed.row_unique listed listed' alike.1 alike.2 dates
      rw [amount, latest] at reached
      rw [amount, latest']
      exact reached

end ActivityReport.Store
