import ActivityReport.Proofs.Report.Conditions
import ActivityReport.Proofs.Report.Totals

/-!
# Milestones

A milestone column shows the first milestone between the total before the first day and the total at the last one
(`Store.shown_milestone`), and the condition that a milestone is reached keeps the actors for whom that column shows
one (`Service.milestones_crossed`). Where totals are right and do not fall, what is crossed over a window is
crossed over exactly one of the two parts into which a day cuts it (`Store.WellKeyed.crosses_iff_xor`).
-/

namespace ActivityReport

open Number (fitsWord)
open Traced (Yields)

namespace Store

/-- Whether a milestone lies above the total before the first day of a window and is reached by the total at its last
day. -/
def crosses (s : Store) (w : Window) (counter : Counter) (actorId milestone : Int) : Bool :=
  isCrossed (s.amountBefore w counter actorId) (s.amount ⟨.actor, .finish, w.finish, .whole⟩ counter actorId) milestone

variable {s : Store} {n : Naming} {w : Window} {counter : Counter} {a : Actor}

/-! ## What is shown -/

/-- A milestone column shows the first of its milestones that is crossed. -/
lemma shown_milestone {c : Column} (type : c.type = .milestone counter) {ladder : Option Ladder} :
    s.shown n.actorTable w ladder c a = .ofOption .int (c.milestones.find? (s.crosses w counter a.id)) := by
  have integer : ∀ found : Option Int, c.type.valueType.normalize (.ofOption .int found) = .ofOption .int found := by
    intro found
    rw [type]
    cases found <;> rfl
  have needs : c.needs w = w.needSpan .actor .inPeriod .whole := by
    rw [Column.needs, type]
  have planned : ∀ k, .snapshot k ∈ w.needSpan .actor .inPeriod .whole →
      k ∈ (JoinPlan.ofNeeds (c.needs w)).snapshots := by
    intro k need
    exact JoinPlan.mem_snapshots_ofNeeds.2 (Or.inl (needs ▸ need))
  by_cases blank : c.milestones.isEmpty = true
  · have expressed : c.expression? w = some .nothing := by
      rw [Column.expression?, type]
      exact if_pos blank
    rw [shown_of_expression expressed, List.isEmpty_iff.1 blank]
    exact integer none
  · have expressed : c.expression? w =
        some (.milestone (w.atStart .actor counter .whole) (w.atFinish .actor counter .whole) c.milestones) := by
      rw [Column.expression?, type]
      exact if_neg blank
    have later : (w.atFinish .actor counter .whole).eval (s.joinedRow n.actorTable (.ofNeeds (c.needs w)) a) =
        s.amount ⟨.actor, .finish, w.finish, .whole⟩ counter a.id :=
      eval_total_joinedRow (planned _ (List.mem_append_right _ (List.mem_singleton_self _))) (by simp) counter
    have earlier : (w.atStart .actor counter .whole).eval (s.joinedRow n.actorTable (.ofNeeds (c.needs w)) a) =
        s.amountBefore w counter a.id :=
      eval_atStart_joinedRow fun k need => planned k (List.mem_append_left _ need)
    rw [shown_of_expression expressed, Expression.eval, earlier, later]
    exact integer _

/-- Who meets the condition that one of some milestones is reached is who crosses one of them. -/
lemma meets_milestone_iff {milestones : List Int} (some : milestones ≠ []) {ladder : Option Ladder} :
    s.Meets w ladder a (.milestone counter milestones) ↔
      (milestones.find? (s.crosses w counter a.id)).isSome = true := by
  simp only [Meets, some, false_or, List.find?_isSome, crosses, isCrossed, Bool.and_eq_true, Bool.not_eq_true']
  exact exists_congr fun m => and_congr_right fun _ => and_comm

/-! ## Two parts of a window -/

/-- The total of a counter before the first day of a window as a whole number; without a first day it is 0. -/
def totalBefore (s : Store) (w : Window) (counter : Counter) (actorId : Int) : Int :=
  w.start.elim 0 fun first => s.total ⟨.actor, .before, first, .whole⟩ counter actorId

/-- In whole numbers a milestone is crossed if it lies above the one total and not above the other. -/
lemma crosses_iff (fits : ∀ n ∈ s.integers, fitsWord n = true) {m : Int} (word : fitsWord m = true)
    (least : -2 ^ 63 < m) {actorId : Int} : s.crosses w counter actorId m = true ↔
      s.totalBefore w counter actorId < m ∧ m ≤ s.total ⟨.actor, .finish, w.finish, .whole⟩ counter actorId := by
  have below : Amount.compareInt (s.amountBefore w counter actorId) m = .lt ↔ s.totalBefore w counter actorId < m := by
    unfold amountBefore totalBefore
    cases w.start with
    | none => exact Int.compare_eq_lt
    | some first => exact total_lt_iff fits word least
  simp only [crosses, isCrossed, Amount.atLeast, Bool.and_eq_true, bne_iff_ne, ne_eq, Bool.not_eq_true',
    bne_eq_false_iff_eq, total_lt_iff fits word least, below, not_lt]
  exact and_comm

/-- What is crossed over a window is crossed over exactly one of the two parts into which a day cuts it, and nothing
else is crossed over exactly one of them. -/
theorem WellKeyed.crosses_iff_xor (keyed : s.WellKeyed) (consistent : s.Consistent)
    (nonNegative : s.IsNonNegative counter) (fits : ∀ n ∈ s.integers, fitsWord n = true) {start : Option Date}
    {cut next finish : Date} (ordered : ∀ first ∈ start, first ≤ cut) (inside : cut < finish)
    (follows : cut.addDays? 1 = some next) {m : Int} (pos : 0 < m) {actorId : Int} :
    s.crosses ⟨start, finish⟩ counter actorId m = true ↔
      Xor (s.crosses ⟨start, cut⟩ counter actorId m = true)
        (s.crosses ⟨some next, finish⟩ counter actorId m = true) := by
  -- the total before the second part is the one at the end of the first
  have meet : s.amountBefore ⟨some next, finish⟩ counter actorId =
      s.amount ⟨.actor, .finish, cut, .whole⟩ counter actorId := by
    show s.amount ⟨.actor, .before, next, .whole⟩ counter actorId = _
    rw [amount, amount, latestRow?_before_next follows]
  -- totals do not fall from the first day to the cut and from the cut to the last day
  have early : Amount.atLeast (s.amountBefore ⟨start, cut⟩ counter actorId) m = true →
      Amount.atLeast (s.amount ⟨.actor, .finish, cut, .whole⟩ counter actorId) m = true := by
    unfold amountBefore
    cases start with
    | none =>
      intro reached
      rw [Amount.atLeast, bne_iff_ne] at reached
      exact absurd (Int.compare_eq_lt.2 pos) reached
    | some first =>
      refine keyed.atLeast_mono consistent nonNegative fits rfl rfl (fun day before => ?_) pos
      exact decide_eq_true (Nat.le_trans (Nat.le_of_lt (of_decide_eq_true before)) (ordered first rfl))
  have late : Amount.atLeast (s.amount ⟨.actor, .finish, cut, .whole⟩ counter actorId) m = true →
      Amount.atLeast (s.amount ⟨.actor, .finish, finish, .whole⟩ counter actorId) m = true := by
    refine keyed.atLeast_mono consistent nonNegative fits rfl rfl (fun day before => ?_) pos
    exact decide_eq_true (Nat.le_trans (of_decide_eq_true before) (Nat.le_of_lt inside))
  have first : s.amountBefore ⟨start, finish⟩ counter actorId = s.amountBefore ⟨start, cut⟩ counter actorId := rfl
  simp only [crosses, isCrossed, first, meet, Bool.and_eq_true, Bool.not_eq_true', ← Bool.not_eq_true, Xor]
  tauto

end Store

/-! ## Answers -/

namespace Service

variable {x : Service} {s : Store}

/-- Milestones: each milestone column of a report shows for each actor in it the first of its milestones that is
crossed, or nothing. Together with the condition that one of some milestones is reached a request is answered if the
database runs its query; whoever it lists crosses one of them, and when no number of rows is set, it lists all of its
actors who do. In whole numbers what is crossed lies above the total before the window and not above the one at its
end. In a store of right totals that do not fall, what is crossed over a window is crossed over exactly one of two
parts of it. -/
theorem milestones_crossed (stored : x.database.store = some s) (keyed : s.WellKeyed)
    (fits : ∀ n ∈ s.integers, fitsWord n = true) (counter : Counter) (milestones : List Int) :
    (∀ json r, Payload.readRequest json = .ok r → ∀ bots clock answer,
      ((x.compile bots r).run clock).result = .ok answer →
        (∀ rows, answer = .rows rows → ∀ (i : Nat) c, r.columns[i]? = some c → c.type = .milestone counter →
          c.milestones = milestones → ∀ row ∈ rows, ∃ a ∈ s.actors, row.id = .int a.id ∧
            row.values[i]? = some (.ofOption .int (milestones.find? (s.crosses r.window counter a.id)))) ∧
        (milestones ≠ [] → ∀ r', r.Adds (.milestone counter milestones) r' → x.Takes r' →
          ∃ answer', (x.compile bots r').Yields answer' ∧ answer'.actorIds.Nodup ∧
            (∀ id ∈ answer'.actorIds, (milestones.find? (s.crosses r.window counter id)).isSome = true) ∧
            ((if r.columns = [] then none else r.itemCount.filter (0 < ·)) = none → ∀ id, id ∈ answer'.actorIds ↔
              id ∈ answer.actorIds ∧ (milestones.find? (s.crosses r.window counter id)).isSome = true))) ∧
    (∀ w actorId m, fitsWord m = true → -2 ^ 63 < m → (s.crosses w counter actorId m = true ↔
      s.totalBefore w counter actorId < m ∧ m ≤ s.total ⟨.actor, .finish, w.finish, .whole⟩ counter actorId)) ∧
    (s.Consistent → s.IsNonNegative counter → ∀ (start : Option Date) (cut next finish : Date),
      (∀ first ∈ start, first ≤ cut) → cut < finish → cut.addDays? 1 = some next → ∀ m > 0, ∀ actorId,
        (s.crosses ⟨start, finish⟩ counter actorId m = true ↔
          Xor (s.crosses ⟨start, cut⟩ counter actorId m = true)
            (s.crosses ⟨some next, finish⟩ counter actorId m = true))) := by
  refine ⟨fun json r parsed bots clock answer compiled => ⟨fun rows reported i c asked type own row listed => ?_,
    fun some r' adds takes => ?_⟩, fun w id m word least => Store.crosses_iff fits word least,
    fun consistent nonNegative start cut next finish ordered inside follows m pos id =>
      keyed.crosses_iff_xor consistent nonNegative fits ordered inside follows pos⟩
  · subst reported
    obtain ⟨ladder, -, shows⟩ := rows_of_compile stored keyed compiled
    obtain ⟨a, known, id, cells⟩ := shows row listed
    refine ⟨a, known, id, ?_⟩
    rw [cells i c asked (by rw [type]; exact ColumnType.noConfusion), Store.shown_milestone type, own]
  · obtain ⟨needed, required⟩ : (Condition.milestone counter milestones).needs r.window =
        .ok (r.window.needSpan .actor .inPeriod .whole) ∧
          (Condition.milestone counter milestones).predicate? r.window = .ok (.some (.crossed
            (r.window.atStart .actor counter .whole) (r.window.atFinish .actor counter .whole) milestones)) := by
      cases milestones with
      | nil => exact absurd rfl some
      | cons m rest => exact ⟨rfl, rfl⟩
    have countsNoLogs : ∀ c ∈ r'.conditions, ¬ c.CountsLogs :=
      adds.forall_conditions.2 ⟨id, Payload.not_countsLogs_of_readRequest parsed⟩
    obtain ⟨ladder, answer', -, compiled', distinct, -, crossed, same⟩ :=
      answer_of_adds stored keyed fits adds countsNoLogs rfl needed required takes compiled
    refine ⟨answer', compiled', distinct, fun id listed => ?_, fun noLimit id => ?_⟩
    · obtain ⟨a, -, rfl, meets⟩ := crossed id listed
      exact (Store.meets_milestone_iff some).1 meets
    · rw [same noLimit]
      refine and_congr_right fun listed => ⟨?_, fun reached => ?_⟩
      · rintro ⟨a, -, rfl, meets⟩
        exact (Store.meets_milestone_iff some).1 meets
      · obtain ⟨a, known, rfl, -⟩ := passes_of_compile stored keyed compiled listed
        exact ⟨a, known, rfl, (Store.meets_milestone_iff some).2 reached⟩

end Service

/-! ### A milestone in June -/

/-- A payload of a request for the milestones since the beginning of June of those with three active days at most. -/
def Json.ofMilestones (reached : List (String × Json)) : Json :=
  .object [("wikiId", .text "w"), ("columns", .list [.object [("type", .text "editsSinceRegistrationMilestone"),
      ("milestones", .list [.int 5, .int 3, .int 2])]]),
    ("requirements", .object (reached ++ [("totalActiveDaysAtMost", .int 3)])), ("startDate", .text "2023-06-01"),
    ("endDate", .text "2023-12-31")]

/-- The only actor of the small store with three active days at most makes a third edit in June, and none in May. -/
theorem Service.milestones_of_small :
    ∃ r r' rows answer' next, Payload.readRequest (.ofMilestones []) = .ok r ∧
      Payload.readRequest (.ofMilestones [("totalEditsMilestoneReachedInPeriod", .list [.int 5, .int 3, .int 2])]) =
        .ok r' ∧
      ((small.compile none r).run []).result = .ok (.rows rows) ∧ (Answer.rows rows).actorIds = [1] ∧
      (∀ row ∈ rows, ∃ a ∈ Store.small.actors, row.id = .int a.id ∧
        row.values[0]? = some (.ofOption .int ([5, 3, 2].find? (Store.small.crosses r.window .edits a.id)))) ∧
      (small.compile none r').Yields answer' ∧ (∀ id, id ∈ answer'.actorIds ↔ id ∈ (Answer.rows rows).actorIds ∧
        ([5, 3, 2].find? (Store.small.crosses r.window .edits id)).isSome = true) ∧
      [5, 3, 2].find? (Store.small.crosses r.window .edits 1) = some 3 ∧ Date.mayFifth.addDays? 1 = some next ∧
      (Store.small.crosses ⟨none, Date.juneFifth⟩ .edits 1 3 = true ↔
        Xor (Store.small.crosses ⟨none, Date.mayFifth⟩ .edits 1 3 = true)
          (Store.small.crosses ⟨some next, Date.juneFifth⟩ .edits 1 3 = true)) := by
  obtain ⟨r, r', c, next, parsed, parsed', asked, type, own, adds, noLimit, third, follows, succeeds, succeeds'⟩ :
      ∃ r r' c next, Payload.readRequest (.ofMilestones []) = .ok r ∧
        Payload.readRequest (.ofMilestones [("totalEditsMilestoneReachedInPeriod", .list [.int 5, .int 3, .int 2])]) =
          .ok r' ∧
        r.columns[0]? = some c ∧ c.type = .milestone .edits ∧ c.milestones = [5, 3, 2] ∧
        r.Adds (.milestone .edits [5, 3, 2]) r' ∧
        (if r.columns = [] then none else r.itemCount.filter (0 < ·)) = none ∧
        [5, 3, 2].find? (Store.small.crosses r.window .edits 1) = some 3 ∧ Date.mayFifth.addDays? 1 = some next ∧
        (((small.compile none r).run []).result.toOption.any fun a => a.actorIds == [1]) = true ∧
        (((small.compile none r').run []).result.toOption.any fun a => a.actorIds == [1]) = true :=
    ⟨_, _, _, ⟨738646, by decide, by decide⟩, rfl, rfl, rfl, rfl, rfl, ⟨_, List.Perm.swap _ _ _, rfl⟩, rfl,
      by decide +kernel, by decide +kernel, by decide +kernel, by decide +kernel⟩
  obtain ⟨answer, compiled, listed⟩ := exists_of_any succeeds
  obtain ⟨_, compiled', -⟩ := exists_of_any succeeds'
  have columns : r.columns ≠ [] := List.ne_nil_of_mem (List.mem_of_getElem? asked)
  obtain ⟨_, rows, -, rfl, -⟩ := shown_of_compile (x := small) rfl Store.wellKeyed_small columns compiled
  obtain ⟨ofRequest, -, ofStore⟩ :=
    milestones_crossed (x := small) rfl Store.wellKeyed_small (by decide) .edits [5, 3, 2]
  obtain ⟨shows, reaches⟩ := ofRequest _ r parsed none [] _ compiled
  obtain ⟨answer', yields, -, -, same⟩ := reaches (by decide) r' adds (takes_of_compile compiled')
  exact ⟨r, r', rows, answer', next, parsed, parsed', compiled, eq_of_beq listed, shows rows rfl 0 c asked type own,
    yields, same noLimit, third, follows, ofStore (by decide) (by decide) none Date.mayFifth next Date.juneFifth (by simp)
      (by decide) follows 3 (by decide) 1⟩

end ActivityReport
