import ActivityReport.Calendar.Window
import ActivityReport.Proofs.Trace.Outcome

/-!
# Days that are named

A number of days leads from a day to the day with that much greater an ordinal, and fails exactly when there is no
such day: every number that is too large for a time span leads out of the calendar as well
(`Date.later_eq_ok_iff`). So the day that an epoch names is known by its ordinal (`Window.ordinal?`).
-/

namespace ActivityReport

namespace Date

/-- Whether no day has an ordinal. -/
def IsOutside (n : Int) : Prop := ∀ d : Date, (d.ordinal : Int) ≠ n

lemma isOutside_iff {n : Int} : IsOutside n ↔ n < 1 ∨ (lastOrdinal : Int) < n := by
  rw [← ofOrdinal?_eq_none_iff, Option.eq_none_iff_forall_ne_some]
  exact forall_congr' fun d => not_congr ofOrdinal?_eq_some_iff.symm

instance (n : Int) : Decidable (IsOutside n) := decidable_of_iff _ isOutside_iff.symm

variable {d e : Date} {n : Int}

lemma checkSpan_of_ordinal (h : (e.ordinal : Int) = d.ordinal + n) : checkSpan n = .ok () := by
  have low := d.one_le
  have high := d.le_last
  have low' := e.one_le
  have high' := e.le_last
  unfold lastOrdinal at high high'
  unfold checkSpan
  rw [if_neg (by omega), if_neg (by omega)]

/-- The day so many days later is the one with that much greater an ordinal. -/
lemma later_eq_ok_iff : d.later n = .ok e ↔ (e.ordinal : Int) = d.ordinal + n := by
  constructor
  · intro h
    obtain ⟨_, -, h⟩ := bind_eq_ok.1 h
    split at h
    · rename_i found
      cases h
      exact addDays?_eq_some_iff.1 found
    · cases h
  · intro h
    refine bind_eq_ok.2 ⟨(), checkSpan_of_ordinal h, ?_⟩
    rw [addDays?_eq_some_iff.2 h]

lemma earlier_eq_ok_iff : d.earlier n = .ok e ↔ (e.ordinal : Int) = d.ordinal - n := by
  constructor
  · intro h
    obtain ⟨_, -, h⟩ := bind_eq_ok.1 h
    split at h
    · rename_i found
      cases h
      rw [addDays?_eq_some_iff.1 found]
      omega
    · cases h
  · intro h
    have back : (d.ordinal : Int) = e.ordinal + n := by omega
    have step : d.addDays? (-n) = some e := addDays?_eq_some_iff.2 (by omega)
    refine bind_eq_ok.2 ⟨(), checkSpan_of_ordinal back, ?_⟩
    rw [step]

end Date

namespace Window

variable {w : Window} {epoch : Option Epoch}

/-- The ordinal of the day that an epoch names, whether or not there is such a day. -/
def ordinal? (w : Window) : Option Epoch → Option Int
  | none => some w.finish.ordinal
  | some .startOfPeriod => w.start.map fun first => first.ordinal - 1
  | some (.offset n) => some (w.finish.ordinal + n)

lemma resolve_eq_none_iff : w.resolve epoch = .ok none ↔ w.ordinal? epoch = none := by
  cases epoch with
  | none =>
    constructor <;> intro h <;> cases h
  | some epoch =>
    cases epoch with
    | startOfPeriod =>
      unfold resolve ordinal?
      cases w.start with
      | none => exact ⟨fun _ => rfl, fun _ => rfl⟩
      | some first =>
        constructor <;> intro h
        · obtain ⟨_, -, same⟩ := map_eq_ok.1 h
          cases same
        · cases h
    | offset n =>
      constructor <;> intro h
      · obtain ⟨_, -, same⟩ := map_eq_ok.1 h
        cases same
      · cases h

lemma resolve_eq_some_iff {day : Date} : w.resolve epoch = .ok (some day) ↔ w.ordinal? epoch = some (day.ordinal : Int) := by
  cases epoch with
  | none =>
    simp only [resolve, ordinal?, Except.ok.injEq, Option.some.injEq, Int.natCast_inj]
    exact ⟨fun same => same ▸ rfl, Date.ordinal_injective⟩
  | some epoch =>
    cases epoch with
    | startOfPeriod =>
      unfold resolve ordinal?
      cases w.start with
      | none => constructor <;> intro h <;> cases h
      | some first =>
        simp only [map_eq_ok, Date.earlier_eq_ok_iff, Option.map_some, Option.some.injEq, exists_eq_right]
        exact eq_comm
    | offset n =>
      simp only [resolve, ordinal?, map_eq_ok, Date.later_eq_ok_iff, Option.some.injEq, exists_eq_right]
      exact eq_comm

/-- An epoch has a day when the day with its ordinal is in the calendar, or when it has no ordinal. -/
lemma exists_resolve_iff : (∃ day, w.resolve epoch = .ok day) ↔ ∀ n ∈ w.ordinal? epoch, ¬ Date.IsOutside n := by
  constructor
  · rintro ⟨day, resolved⟩ n own
    cases day with
    | none =>
      rw [resolve_eq_none_iff.1 resolved] at own
      cases own
    | some day =>
      obtain rfl := Option.some.inj ((resolve_eq_some_iff.1 resolved).symm.trans own)
      exact fun outside => outside day rfl
  · intro inside
    cases own : w.ordinal? epoch with
    | none => exact ⟨none, resolve_eq_none_iff.2 own⟩
    | some n =>
      obtain ⟨day, same⟩ := not_forall_not.1 (inside n own)
      exact ⟨some day, resolve_eq_some_iff.2 (same ▸ own)⟩

/-- A period has bounds when both its days are in the calendar, or when its epoch has no ordinal. -/
lemma exists_bounds_iff {period : Int} : (∃ days, w.bounds period epoch = .ok days) ↔
    ∀ n ∈ w.ordinal? epoch, ¬ Date.IsOutside n ∧ ¬ Date.IsOutside (n - period) := by
  constructor
  · rintro ⟨days, bounded⟩ n own
    obtain ⟨last, resolved, bounded⟩ := bind_eq_ok.1 bounded
    refine ⟨exists_resolve_iff.1 ⟨last, resolved⟩ n own, ?_⟩
    cases last with
    | none =>
      rw [resolve_eq_none_iff.1 resolved] at own
      cases own
    | some last =>
      obtain rfl := Option.some.inj ((resolve_eq_some_iff.1 resolved).symm.trans own)
      obtain ⟨first, earlier, -⟩ := bind_eq_ok.1 bounded
      exact fun outside => outside first (Date.earlier_eq_ok_iff.1 earlier)
  · intro inside
    obtain ⟨last, resolved⟩ := exists_resolve_iff.2 fun n own => (inside n own).1
    cases last with
    | none => exact ⟨none, bind_eq_ok.2 ⟨none, resolved, rfl⟩⟩
    | some last =>
      obtain ⟨first, same⟩ := not_forall_not.1 (inside _ (resolve_eq_some_iff.1 resolved)).2
      exact ⟨some (first, last), bind_eq_ok.2 ⟨some last, resolved,
        bind_eq_ok.2 ⟨first, Date.earlier_eq_ok_iff.2 same, rfl⟩⟩⟩

end Window

end ActivityReport
