import ActivityReport.Proofs.Payload.Condition
import ActivityReport.Proofs.Query.Coverage
import ActivityReport.Proofs.Report.Answer
import ActivityReport.Proofs.Report.Levels

/-!
# Requirements

What it means for an actor to meet the conditions of a request (`Store.Meets`), said of the store alone,
and that a request without columns lists exactly these actors. Three steps of a report judge conditions:
the joins drop actors without a row, the predicates of the query look at totals, and levels are judged
afterwards. `Store.WellKeyed.meets_iff` shows, one case for each kind of condition, that the last two decide a
condition for an actor that the joins keep; `Store.hasRowBy_of_meets` shows that the joins drop nobody else.
-/

namespace ActivityReport

open Traced (ComesTo)

/-! ## What is asked for -/

namespace Store

/-- Whether an actor meets a threshold. One whose epoch names no day is met. Without a scope the actor must
have a row up to the last day; then the total as of that day, or for a period what was added to it since
the first one, is compared with the count, summed over the scopes. -/
def MeetsThreshold (s : Store) (w : Window) (actorId : Int) (t : Threshold) : Prop :=
  match t.period with
  | none => ∀ day, w.resolve t.epoch = .ok (some day) →
      (t.scopes = .whole → s.HasRowBy actorId day) ∧
      Amount.meets t.comparison (Amount.sum (t.scopes.toList.map fun scope =>
        s.amount ⟨.actor, .finish, day, scope⟩ t.counter actorId)) t.count = true
  | some period => ∀ days, w.bounds period t.epoch = .ok (some days) →
      (t.scopes = .whole → s.HasRowBy actorId days.2) ∧
      Amount.meets t.comparison (Amount.sum (t.scopes.toList.map fun scope =>
        Amount.sub (s.amount ⟨.actor, .finish, days.2, scope⟩ t.counter actorId)
          (s.amount ⟨.actor, .before, days.1, scope⟩ t.counter actorId))) t.count = true

/-- The total of a counter before the first day of a window; without a first day it is 0. -/
def amountBefore (s : Store) (w : Window) (counter : Counter) (actorId : Int) : Amount :=
  match w.start with
  | some first => s.amount ⟨.actor, .before, first, .whole⟩ counter actorId
  | none => .whole 0

/-- Whether an actor meets a condition. -/
def Meets (s : Store) (w : Window) (ladder : Option Ladder) (a : Actor) : Condition → Prop
  | .registrationStatus statuses => statuses = [] ∨
      (.registered ∈ statuses ∧ a.isRegistered = true ∧ ∃ day, a.registration = some day ∧ day ≤ w.finish) ∨
      (.anonymous ∈ statuses ∧ a.isRegistered = false)
  | .registrationAge comparison days => ∃ day, a.registration = some day ∧ day ≤ w.finish ∧
      comparison.holds (day.daysUntil w.finish) days = true
  | .inGroups names => ∃ name ∈ names, (a.id, name) ∈ s.groups
  | .notInGroups names => ∀ name ∈ names, (a.id, name) ∉ s.groups
  | .hasTemplates names => ∀ name ∈ names, (a.id, name) ∈ s.templates
  | .hasNoTemplates names => ∀ name ∈ names, (a.id, name) ∉ s.templates
  | .threshold t => s.MeetsThreshold w a.id t
  | .milestone counter milestones => milestones = [] ∨ ∃ m ∈ milestones,
      Amount.atLeast (s.amountBefore w counter a.id) m = false ∧
      Amount.atLeast (s.amount ⟨.actor, .finish, w.finish, .whole⟩ counter a.id) m = true
  | .level changed ids => (∃ id ∈ ids, s.levelId? ladder (LevelSnapshot.atFinish w) a.id = some id) ∧
      (changed = true → s.levelId? ladder (LevelSnapshot.atFinish w) a.id ≠
        (LevelSnapshot.atStart? w).bind fun l => s.levelId? ladder l a.id)

end Store

/-! ## One condition -/

namespace Store

variable {s : Store} {w : Window} {ladder : Option Ladder} {n : Naming} {p : JoinPlan} {j : JoinedRow}
  {c : Condition} {list : List Need} {predicate : Option Predicate}

/-- Membership in groups, group by group. -/
lemma isInGroups_iff {actorId : Int} {names : List String} :
    s.isInGroups actorId names = true ↔ ∃ name ∈ names, (actorId, name) ∈ s.groups := by
  simp only [isInGroups, List.any_eq_true, Bool.and_eq_true, beq_iff_eq, List.contains_iff_mem]
  constructor
  · rintro ⟨⟨id, name⟩, listed, rfl, asked⟩
    exact ⟨name, asked, listed⟩
  · rintro ⟨name, asked, listed⟩
    exact ⟨_, listed, rfl, asked⟩

/-- The predicate of a threshold holds in the row of an actor exactly when the actor, who has all rows that
the joins ask for, meets the threshold. -/
lemma WellKeyed.meetsThreshold_iff (keyed : s.WellKeyed) (found : j ∈ s.joined n.actorTable p) {t : Threshold}
    (needed : t.needs w = .ok list) (built : t.predicate? w = .ok predicate)
    (planned : ∀ k, .snapshot k ∈ list → k ∈ p.snapshots) (notLogged : ∀ f, .logged f ∉ t.scopes.toList) :
    s.MeetsThreshold w j.actor.id t ↔ ∀ b, predicate = some b → b.holds s j = true := by
  have rows := (keeps_iff.1 (keyed.eq_joinedRow_of_mem found).2.2).1
  -- the joins drop an actor without the rows that the un-scoped ends ask for, and the row is there
  have whole : ∀ day, .snapshot ⟨.actor, .finish, day, .whole⟩ ∈ list → s.HasRowBy j.actor.id day :=
    fun day listed => rows day (planned _ listed)
  have total : ∀ k counter, .snapshot k ∈ list → k.scope ∈ t.scopes.toList →
      (Sum.total k counter).eval j = s.amount k counter j.actor.id := by
    intro k counter listed own
    exact keyed.eval_total found (planned k listed) (fun f same => notLogged f (same ▸ own)) counter
  unfold MeetsThreshold
  cases form : t.period with
  | none =>
    obtain ⟨day, resolved, rfl⟩ := Threshold.predicate?_of_total form built
    simp only [Threshold.needs, form, resolved] at needed
    cases needed
    simp only [resolved]
    cases day with
    | none => simp
    | some day =>
      have listed : ∀ scope ∈ t.scopes.toList, .snapshot ⟨.actor, .finish, day, scope⟩ ∈
          t.scopes.toList.flatMap (needDay (some day)) := by
        intro scope own
        exact List.mem_flatMap.2 ⟨scope, own, List.mem_singleton_self _⟩
      have value := Sum.eval_ofList_map fun scope own => total _ t.counter (listed scope own) own
      simp only [Except.ok.injEq, Option.some.injEq, forall_eq', Option.map_some, Predicate.holds, value]
      refine and_iff_right_of_imp fun _ isWhole => ?_
      exact whole day (listed .whole (by simp [isWhole, Scopes.toList]))
  | some period =>
    obtain ⟨days, resolved, rfl⟩ := Threshold.predicate?_of_period form built
    simp only [Threshold.needs, form, resolved] at needed
    cases needed
    simp only [resolved]
    cases days with
    | none => simp
    | some days =>
      have listed : ∀ scope ∈ t.scopes.toList,
          .snapshot ⟨.actor, .before, days.1, scope⟩ ∈ t.scopes.toList.flatMap (needBounds (some days)) ∧
          .snapshot ⟨.actor, .finish, days.2, scope⟩ ∈ t.scopes.toList.flatMap (needBounds (some days)) := by
        intro scope own
        exact ⟨List.mem_flatMap.2 ⟨scope, own, by simp [needBounds]⟩,
          List.mem_flatMap.2 ⟨scope, own, by simp [needBounds]⟩⟩
      have value : (Sum.ofList (t.scopes.toList.map fun scope =>
          .minus (.total ⟨.actor, .finish, days.2, scope⟩ t.counter)
            (.total ⟨.actor, .before, days.1, scope⟩ t.counter))).eval j = Amount.sum (t.scopes.toList.map fun scope =>
          Amount.sub (s.amount ⟨.actor, .finish, days.2, scope⟩ t.counter j.actor.id)
            (s.amount ⟨.actor, .before, days.1, scope⟩ t.counter j.actor.id)) := by
        refine Sum.eval_ofList_map fun scope own => ?_
        rw [Sum.eval, total _ t.counter (listed scope own).2 own, total _ t.counter (listed scope own).1 own]
      simp only [Except.ok.injEq, Option.some.injEq, forall_eq', Option.map_some, Predicate.holds, value]
      refine and_iff_right_of_imp fun _ isWhole => ?_
      exact whole days.2 (listed .whole (by simp [isWhole, Scopes.toList])).2

/-- The list of statuses holds for an actor exactly when it is empty or one of them is the actor's. -/
lemma holds_status_iff (ladder : Option Ladder) {statuses : List RegistrationStatus} :
    (Predicate.status statuses w.finish).holds s j = true ↔ s.Meets w ladder j.actor (.registrationStatus statuses) := by
  cases statuses with
  | nil => simp [Predicate.holds, Meets]
  | cons status rest =>
    simp only [Predicate.holds, Meets, List.any_eq_true, reduceCtorEq, false_or]
    constructor
    · rintro ⟨status, listed, has⟩
      cases status with
      | registered =>
        simp only [Predicate.hasStatus, Predicate.registeredBy, Bool.and_eq_true, Option.any_eq_true,
          decide_eq_true_eq] at has
        obtain ⟨registered, day, registration, before⟩ := has
        exact Or.inl ⟨listed, registered, day, registration, before⟩
      | anonymous => exact Or.inr ⟨listed, by simpa [Predicate.hasStatus] using has⟩
    · rintro (⟨listed, registered, day, registration, before⟩ | ⟨listed, anonymous⟩)
      · refine ⟨.registered, listed, ?_⟩
        simp [Predicate.hasStatus, Predicate.registeredBy, registered, registration, before]
      · exact ⟨.anonymous, listed, by simp [Predicate.hasStatus, anonymous]⟩

/-- In the joined row of an actor the total before the first day is the store's. -/
lemma eval_atStart_joinedRow {a : Actor} {counter : Counter}
    (planned : ∀ k, .snapshot k ∈ w.needBefore .actor .whole → k ∈ p.snapshots) :
    (w.atStart .actor counter .whole).eval (s.joinedRow n.actorTable p a) = s.amountBefore w counter a.id := by
  unfold Window.atStart amountBefore
  cases start : w.start with
  | none => rfl
  | some first => exact eval_total_joinedRow (planned _ (by simp [Window.needBefore, start])) (by simp) counter

/-- So it is in each row that is joined. -/
lemma WellKeyed.eval_atStart (keyed : s.WellKeyed) (found : j ∈ s.joined n.actorTable p) {counter : Counter}
    (planned : ∀ k, .snapshot k ∈ w.needBefore .actor .whole → k ∈ p.snapshots) :
    (w.atStart .actor counter .whole).eval j = s.amountBefore w counter j.actor.id := by
  conv_lhs => rw [(keyed.eq_joinedRow_of_mem found).1]
  exact eval_atStart_joinedRow planned

/-- The milestones that an actor crosses in a row are those between the two totals of the store. -/
lemma WellKeyed.crosses_iff (keyed : s.WellKeyed) (found : j ∈ s.joined n.actorTable p) {counter : Counter}
    {milestones : List Int} (planned : ∀ k, .snapshot k ∈ w.needSpan .actor .inPeriod .whole → k ∈ p.snapshots) :
    (Predicate.crossed (w.atStart .actor counter .whole) (w.atFinish .actor counter .whole) milestones).holds s j = true ↔
      ∃ m ∈ milestones, Amount.atLeast (s.amountBefore w counter j.actor.id) m = false ∧
        Amount.atLeast (s.amount ⟨.actor, .finish, w.finish, .whole⟩ counter j.actor.id) m = true := by
  have earlier : (w.atStart .actor counter .whole).eval j = s.amountBefore w counter j.actor.id :=
    keyed.eval_atStart found fun k listed => planned k (List.mem_append_left _ listed)
  have later : (w.atFinish .actor counter .whole).eval j =
      s.amount ⟨.actor, .finish, w.finish, .whole⟩ counter j.actor.id :=
    keyed.eval_total found (planned _ (List.mem_append_right _ (List.mem_singleton_self _))) (by simp) counter
  simp only [Predicate.holds, earlier, later, List.any_eq_true, isCrossed, Bool.and_eq_true, Bool.not_eq_true']
  exact exists_congr fun m => and_congr_right fun _ => and_comm

/-- The condition on levels keeps a row exactly when the actor has one of the levels, and another one than
before if that is asked for. -/
lemma keeps_level_iff {changed : Bool} {ids : List String} {row : LevelledRow}
    (levels : ∀ l, .level l ∈ w.needLevelFinish :: (if changed then w.needLevelBefore else []) →
      (row.levelAt (some l)).id? = s.levelId? ladder l j.actor.id) :
    (Condition.level changed ids).keeps (row.change w) = true ↔ s.Meets w ladder j.actor (.level changed ids) := by
  have finish : (row.change w).finish.id? = s.levelId? ladder (LevelSnapshot.atFinish w) j.actor.id :=
    levels _ List.mem_cons_self
  have start : changed = true → (row.change w).start.id? =
      (LevelSnapshot.atStart? w).bind fun l => s.levelId? ladder l j.actor.id := by
    rintro rfl
    show (row.levelAt (LevelSnapshot.atStart? w)).id? = _
    cases atStart : LevelSnapshot.atStart? w with
    | none => rfl
    | some l => exact levels l (List.mem_cons_of_mem _ (by simp [Window.needLevelBefore, atStart]))
  simp only [Condition.keeps, LevelChange.changed, finish, Meets, Bool.and_eq_true, Bool.or_eq_true,
    Bool.not_eq_true', Option.any_eq_true, List.contains_iff_mem, bne_iff_ne, ne_eq]
  refine and_congr (exists_congr fun id => and_comm) ?_
  cases changed with
  | false => simp
  | true => simp [start, eq_comm]

/-- In the joined row of an actor a condition that is not about levels is met exactly when its predicate
holds. -/
lemma WellKeyed.meets_iff_holds (keyed : s.WellKeyed) (found : j ∈ s.joined n.actorTable p)
    (needed : c.needs w = .ok list) (built : c.predicate? w = .ok predicate) (countsNoLogs : ¬ c.CountsLogs)
    (planned : ∀ k, .snapshot k ∈ list → k ∈ p.snapshots) (notLevel : c.isLevel = false) :
    s.Meets w ladder j.actor c ↔ ∀ b, predicate = some b → b.holds s j = true := by
  cases c with
  | threshold t => exact keyed.meetsThreshold_iff found needed built planned fun f own => countsNoLogs ⟨f, own⟩
  | milestone counter milestones =>
    cases milestones with
    | nil =>
      cases built
      simp [Meets]
    | cons m rest =>
      cases needed
      cases built
      simp only [Option.some.injEq, forall_eq', keyed.crosses_iff found planned, Meets, reduceCtorEq, false_or]
  | level changed ids => cases notLevel
  | registrationStatus statuses =>
    have isStatus : predicate = some (.status statuses w.finish) := by
      simp only [Condition.predicate?] at built
      split at built
      · obtain ⟨_, -, built⟩ := bind_eq_ok.1 built
        exact (Except.ok.inj built).symm
      · exact (Except.ok.inj built).symm
    simp only [isStatus, Option.some.injEq, forall_eq', holds_status_iff ladder]
  | registrationAge comparison days =>
    obtain ⟨_, -, built⟩ := bind_eq_ok.1 built
    cases built
    simp only [Option.some.injEq, forall_eq', Predicate.holds, Meets, Option.any_eq_true, Bool.and_eq_true,
      decide_eq_true_eq]
  | inGroups names =>
    cases built
    simp only [Option.some.injEq, forall_eq', Predicate.holds, Meets, isInGroups_iff]
  | notInGroups names =>
    cases built
    simp only [Option.some.injEq, forall_eq', Predicate.holds, Meets, Bool.not_eq_true', ← Bool.not_eq_true,
      isInGroups_iff, not_exists, not_and]
  | hasTemplates names =>
    cases built
    simp only [Option.some.injEq, forall_eq', Predicate.holds, Meets, hasTemplate, List.all_eq_true,
      List.contains_iff_mem]
  | hasNoTemplates names =>
    cases built
    simp only [Option.some.injEq, forall_eq', Predicate.holds, Meets, hasTemplate, Bool.not_eq_true',
      ← Bool.not_eq_true, List.any_eq_true, List.contains_iff_mem, not_exists, not_and]

/-! ## No one else is dropped -/

/-- What lies strictly before the first day of a window lies up to its last day. -/
lemma amountBefore_eq_zero {r : Request} {counter : Counter} {actorId : Int}
    (h : s.latestRow? ⟨.actor, .finish, r.window.finish, .whole⟩ actorId = none) :
    s.amountBefore r.window counter actorId = .whole 0 := by
  unfold amountBefore
  cases start : r.window.start with
  | none => rfl
  | some first =>
    refine amount_eq_zero (latestRow?_eq_none_iff.2 fun row listed => ?_)
    have unseen := latestRow?_eq_none_iff.1 h row listed
    simp only [SnapshotKey.sees, Boundary.admits, Bool.and_eq_false_iff, decide_eq_false_iff_not] at unseen ⊢
    refine unseen.imp_right fun late early => late ?_
    exact Nat.le_trans (Nat.le_of_lt early) (r.ordered first start)

/-- A threshold that an actor meets has, where it is not scoped, a row of the actor up to its last day. -/
lemma hasRowBy_of_meetsThreshold {t : Threshold} {actorId : Int} (needed : t.needs w = .ok list)
    (meets : s.MeetsThreshold w actorId t) {day : Date}
    (asked : .snapshot ⟨.actor, .finish, day, .whole⟩ ∈ list) : s.HasRowBy actorId day := by
  have isWhole : .whole ∈ t.scopes.toList → t.scopes = .whole := by
    cases t.scopes <;> simp [Scopes.toList]
  -- of a period the key at its last day is the only one of this boundary; of a day it is the day
  unfold Threshold.needs at needed
  unfold MeetsThreshold at meets
  split at needed
  · rename_i period form
    simp only [form] at meets
    obtain ⟨days, resolved, needed⟩ := bind_eq_ok.1 needed
    cases needed
    obtain ⟨scope, own, bounds⟩ := List.mem_flatMap.1 asked
    cases days with
    | none => cases bounds
    | some days =>
      simp only [needBounds, List.mem_cons, Need.snapshot.injEq, SnapshotKey.mk.injEq, reduceCtorEq, false_and,
        and_false, false_or, true_and, List.not_mem_nil, or_false] at bounds
      obtain ⟨rfl, rfl⟩ := bounds
      exact (meets days resolved).1 (isWhole own)
  · rename_i form
    simp only [form] at meets
    obtain ⟨resolvedDay, resolved, needed⟩ := bind_eq_ok.1 needed
    cases needed
    obtain ⟨scope, own, atDay⟩ := List.mem_flatMap.1 asked
    cases resolvedDay with
    | none => cases atDay
    | some resolvedDay =>
      simp only [needDay, List.mem_singleton, Need.snapshot.injEq, SnapshotKey.mk.injEq, true_and] at atDay
      obtain ⟨rfl, rfl⟩ := atDay
      exact (meets _ resolved).1 (isWhole own)

/-- An actor that meets a condition has every row of its whole activity that the joins ask for on behalf of
the condition. -/
lemma hasRowBy_of_meets {r : Request} {a : Actor} (needed : c.needs r.window = .ok list)
    (meets : s.Meets r.window ladder a c) {day : Date}
    (asked : .snapshot ⟨.actor, .finish, day, .whole⟩ ∈ list ∨ .level ⟨.finish, day⟩ ∈ list) :
    s.HasRowBy a.id day := by
  cases c with
  | threshold t =>
    rcases asked with asked | asked
    · exact hasRowBy_of_meetsThreshold needed meets asked
    · obtain ⟨_, same, -⟩ := t.isSnapshot_of_mem_needs needed asked
      cases same
  | milestone counter milestones =>
    cases milestones with
    | nil =>
      cases needed
      simp at asked
    | cons m rest =>
      cases needed
      have atFinish : day = r.window.finish := by
        cases start : r.window.start <;>
          simpa [Window.needSpan, Window.needBefore, Window.needFinish, start] using asked
      subst atFinish
      rw [← isSome_latestRow?_finish, ← Option.ne_none_iff_isSome]
      intro none
      rcases meets with empty | ⟨m, -, below, above⟩
      · cases empty
      -- without a row both totals are 0, and nothing lies between them
      · rw [amountBefore_eq_zero none] at below
        rw [amount_eq_zero none, below] at above
        cases above
  | level changed ids =>
    cases needed
    have atFinish : day = r.window.finish := by
      cases changed <;> cases start : r.window.start <;>
        simp_all [Window.needLevelFinish, Window.needLevelBefore, LevelSnapshot.atFinish, LevelSnapshot.atStart?]
    subst atFinish
    obtain ⟨⟨id, -, has⟩, -⟩ := meets
    exact hasRowBy_of_levelId? has
  | _ =>
    cases needed
    simp at asked

end Store

/-! ## The list of actors -/

/-- Whether a row of a query meets the conditions of a request on levels. -/
def JoinedRow.keepsLevels (r : Request) (q : Query) (ladder : Option Ladder) (j : JoinedRow) : Bool :=
  ((RawRow.ofJoined q j).source.withLevels ladder q.plan.levels).toOption.any r.keepsLevels

/-- The actors of the rows that are kept for their levels are those of the rows of the query that meet the
conditions on levels. -/
lemma Layout.filterMap_ids {r : Request} {q : Query} {ladder : Option Ladder} {list : List JoinedRow}
    {all : List LevelledRow}
    (levelled : (list.map fun j => (RawRow.ofJoined q j).source).mapM (·.withLevels ladder q.plan.levels) = .ok all) :
    ((all.filter r.keepsLevels).map (·.raw.id)).filterMap Cell.int? =
      (list.filter (·.keepsLevels r q ladder)).map (·.actor.id) := by
  induction list generalizing all with
  | nil =>
    cases levelled
    rfl
  | cons j rest ih =>
    rw [List.map_cons, List.mapM_cons] at levelled
    obtain ⟨row, first, levelled⟩ := bind_eq_ok.1 levelled
    obtain ⟨others, restOk, made⟩ := bind_eq_ok.1 levelled
    cases made
    have keep : j.keepsLevels r q ladder = r.keepsLevels row := by
      rw [JoinedRow.keepsLevels, first]
      rfl
    have id : row.raw.id.int? = some j.actor.id := by
      rw [SourceRow.raw_of_withLevels first]
      rfl
    rw [List.filter_cons, List.filter_cons, keep]
    split
    · rw [List.map_cons, List.filterMap_cons, id, List.map_cons, ih restOk]
    · exact ih restOk

/-- The answer to a request without columns lists the actors of the matching rows that meet the conditions on
levels; every matching row has got its levels. -/
lemma Service.ids_of_answer {x : Service} {s : Store} (stored : x.database.store = some s) {r : Request} {q : Query}
    {ladder : Option Ladder} {flagless : List String} {answer : Answer} (noColumns : r.columns = [])
    (unlevelled : q.plan.levels = [] → r.requiresLevels = false)
    (h : (x.answer r q ladder flagless).ComesTo answer) :
    answer = .ids (((q.matching s (x.settings.naming r.wikiId).actorTable).filter
        (·.keepsLevels r q ladder)).map (·.actor.id)) ∧
      ∀ j ∈ q.matching s (x.settings.naming r.wikiId).actorTable, ∃ row,
        (RawRow.ofJoined q j).source.withLevels ladder q.plan.levels = .ok row := by
  rcases cases_of_answer stored h with ⟨-, none, rfl⟩ | ⟨-, ids, kept, rfl⟩ | ⟨columns, -⟩
  · have levelled : ∀ j : JoinedRow, (RawRow.ofJoined q j).source.withLevels ladder q.plan.levels =
        .ok ⟨(RawRow.ofJoined q j).source, []⟩ := by
      intro j
      rw [none]
      rfl
    refine ⟨?_, fun j _ => ⟨_, levelled j⟩⟩
    rw [List.filter_eq_self.2, Query.rows, List.map_map]
    · rfl
    · intro j _
      rw [JoinedRow.keepsLevels, levelled]
      exact Layout.keepsLevels_of_not_requiresLevels (unlevelled none) _
  · obtain ⟨rows, levelledRows, kept⟩ := kept.bind
    obtain ⟨all, levelled, rfl⟩ := Layout.rows_of_levelled levelledRows
    rw [Layout.withLevels, Query.rows, List.map_map] at levelled
    refine ⟨?_, fun j listed => ?_⟩
    · rw [← Traced.comesTo_pure.1 kept, Layout.filterMap_ids levelled]
      rfl
    · obtain ⟨row, -, own⟩ := exists_of_mapM_eq_ok levelled (List.mem_map.2 ⟨j, listed, rfl⟩)
      exact ⟨row, own⟩
  · exact absurd noColumns columns

section Answers

variable {x : Service} {s : Store} {r : Request} {p : JoinPlan} {q : Query} {ladder : Option Ladder}

/-- What a condition needs is in the plan of its request. -/
lemma JoinPlan.mem_of_condition (planned : ofRequest r = .ok p) {c : Condition} (asked : c ∈ r.conditions)
    {list : List Need} (needed : c.needs r.window = .ok list) :
    (∀ k, .snapshot k ∈ list → k ∈ p.snapshots) ∧
      ∀ l, .level l ∈ list → l ∈ p.levels ∧ l.key ∈ p.snapshots := by
  obtain ⟨required, each, rfl⟩ := ofRequest_eq_ok.1 planned
  have all : list ⊆ r.columns.flatMap (·.needs r.window) ++ required.flatten := by
    intro need listed
    obtain ⟨list', found, own⟩ := exists_of_mapM_eq_ok each asked
    rw [needed] at own
    cases own
    exact List.mem_append_right _ (List.mem_flatten.2 ⟨list, found, listed⟩)
  refine ⟨fun k listed => mem_snapshots_ofNeeds.2 (Or.inl (all listed)), fun l listed => ?_⟩
  exact ⟨mem_levels_ofNeeds.2 (all listed), mem_snapshots_ofNeeds.2 (Or.inr ⟨l, all listed, rfl⟩)⟩

/-- Without columns everything in a plan is there for some condition. -/
lemma JoinPlan.exists_condition (planned : ofRequest r = .ok p) (noColumns : r.columns = []) {k : SnapshotKey}
    (listed : k ∈ p.snapshots) : ∃ c ∈ r.conditions, ∃ list, c.needs r.window = .ok list ∧
      (.snapshot k ∈ list ∨ ∃ l, .level l ∈ list ∧ l.key = k) := by
  obtain ⟨required, each, rfl⟩ := ofRequest_eq_ok.1 planned
  have source : ∀ need, need ∈ r.columns.flatMap (·.needs r.window) ++ required.flatten →
      ∃ c ∈ r.conditions, ∃ list, c.needs r.window = .ok list ∧ need ∈ list := by
    intro need found
    rw [noColumns, List.flatMap_nil, List.nil_append] at found
    obtain ⟨list, mem, own⟩ := List.mem_flatten.1 found
    obtain ⟨c, asked, needed⟩ := (mem_of_mapM_eq_ok each).1 mem
    exact ⟨c, asked, list, needed, own⟩
  rcases mem_snapshots_ofNeeds.1 listed with found | ⟨l, found, same⟩
  · obtain ⟨c, asked, list, needed, own⟩ := source _ found
    exact ⟨c, asked, list, needed, Or.inl own⟩
  · obtain ⟨c, asked, list, needed, own⟩ := source _ found
    exact ⟨c, asked, list, needed, Or.inr ⟨l, own, same⟩⟩

/-- Without columns no range is planned. -/
lemma JoinPlan.ranges_eq_nil (planned : ofRequest r = .ok p) (noColumns : r.columns = []) : p.ranges = [] := by
  obtain ⟨required, each, rfl⟩ := ofRequest_eq_ok.1 planned
  rw [List.eq_nil_iff_forall_not_mem]
  intro key listed
  have found := mem_ranges_ofNeeds.1 listed
  rw [noColumns, List.flatMap_nil, List.nil_append] at found
  obtain ⟨list, mem, own⟩ := List.mem_flatten.1 found
  obtain ⟨c, -, needed⟩ := (mem_of_mapM_eq_ok each).1 mem
  exact c.range_not_mem_needs needed own

/-- Without columns the joins keep every actor that meets all conditions. -/
lemma Store.keeps_of_meets {n : Naming} (planned : JoinPlan.ofRequest r = .ok p) (noColumns : r.columns = [])
    {a : Actor} (meets : ∀ c ∈ r.conditions, s.Meets r.window ladder a c) : s.keeps n.actorTable p a.id = true := by
  refine keeps_iff.2 ⟨fun day listed => ?_, fun activity day listed => ?_⟩
  · obtain ⟨c, asked, list, needed, own | ⟨⟨boundary, day'⟩, own, same⟩⟩ :=
      JoinPlan.exists_condition planned noColumns listed
    · exact hasRowBy_of_meets needed (meets c asked) (Or.inl own)
    · cases same
      exact hasRowBy_of_meets needed (meets c asked) (Or.inr own)
  · rw [JoinPlan.ranges_eq_nil planned noColumns] at listed
    cases listed

/-- In the joined row of an actor the predicates of the conditions of a request hold exactly when the actor
meets the conditions that are not about levels. -/
lemma Store.WellKeyed.holds_required_iff (keyed : s.WellKeyed) {n : Naming} (planned : JoinPlan.ofRequest r = .ok p)
    {predicates : List (Option Predicate)} (required : r.conditions.mapM (·.predicate? r.window) = .ok predicates)
    (countsNoLogs : ∀ c ∈ r.conditions, ¬ c.CountsLogs) {j : JoinedRow} (found : j ∈ s.joined n.actorTable p) :
    (∀ b ∈ predicates.filterMap id, b.holds s j = true) ↔
      ∀ c ∈ r.conditions, c.isLevel = false → s.Meets r.window ladder j.actor c := by
  obtain ⟨needs, each, -⟩ := JoinPlan.ofRequest_eq_ok.1 planned
  have one : ∀ c ∈ r.conditions, ∀ predicate, c.predicate? r.window = .ok predicate → c.isLevel = false →
      (s.Meets r.window ladder j.actor c ↔ ∀ b, predicate = some b → b.holds s j = true) := by
    intro c asked predicate own notLevel
    obtain ⟨list, -, needed⟩ := exists_of_mapM_eq_ok each asked
    exact keyed.meets_iff_holds found needed own (countsNoLogs c asked)
      (JoinPlan.mem_of_condition planned asked needed).1 notLevel
  simp only [List.mem_filterMap, id, exists_eq_right]
  constructor
  · intro all c asked notLevel
    obtain ⟨predicate, mem, own⟩ := exists_of_mapM_eq_ok required asked
    refine (one c asked predicate own notLevel).2 ?_
    rintro b rfl
    exact all b mem
  · intro all b mem
    obtain ⟨c, asked, own⟩ := (mem_of_mapM_eq_ok required).1 mem
    have notLevel : c.isLevel = false := by
      cases c with
      | level changed ids => cases own
      | _ => rfl
    exact (one c asked (some b) own notLevel).1 (all c asked notLevel) b rfl

/-- In the joined row of an actor the predicates of a query without columns hold exactly when the actor
meets the conditions that are not about levels. -/
lemma Store.WellKeyed.holds_all_iff (keyed : s.WellKeyed) {n : Naming} (planned : JoinPlan.ofRequest r = .ok p)
    (built : Query.ofPlan p r = .ok q) (noColumns : r.columns = []) (countsNoLogs : ∀ c ∈ r.conditions, ¬ c.CountsLogs)
    {j : JoinedRow} (found : j ∈ s.joined n.actorTable p) :
    (∀ b ∈ q.predicates, b.holds s j = true) ↔
      ∀ c ∈ r.conditions, c.isLevel = false → s.Meets r.window ladder j.actor c := by
  obtain ⟨predicates, required, rfl⟩ := Query.ofPlan_eq_ok.1 built
  rw [noColumns, List.flatMap_nil, List.nil_append]
  exact keyed.holds_required_iff planned required countsNoLogs found

/-- A row with its levels is kept exactly when the actor meets the conditions on levels. -/
lemma Store.WellKeyed.keepsLevels_iff (keyed : s.WellKeyed) {n : Naming} (planned : JoinPlan.ofRequest r = .ok q.plan)
    {j : JoinedRow} (found : j ∈ s.joined n.actorTable q.plan) {row : LevelledRow}
    (levelled : (RawRow.ofJoined q j).source.withLevels ladder q.plan.levels = .ok row) :
    r.keepsLevels row = true ↔ ∀ c ∈ r.conditions, c.isLevel = true → s.Meets r.window ladder j.actor c := by
  rw [Request.keepsLevels, List.all_eq_true]
  refine forall_congr' fun c => forall_congr' fun asked => ?_
  cases c with
  | level changed ids =>
    have asAsked : (Condition.level changed ids).keeps (row.change r.window) = true ↔
        s.Meets r.window ladder j.actor (.level changed ids) := by
      refine keeps_level_iff fun l listed => ?_
      obtain ⟨inLevels, inPlan⟩ := (JoinPlan.mem_of_condition planned asked rfl).2 l listed
      obtain ⟨level, measured, same⟩ := SourceRow.levelAt_of_withLevels levelled inLevels
      rw [same]
      exact keyed.id?_levelAt found inLevels inPlan measured
    simpa [Condition.isLevel] using asAsked
  | _ => simp [Condition.keeps, Condition.isLevel]

/-- Where no level is planned there is no condition on levels. -/
lemma Request.requiresLevels_eq_false (planned : JoinPlan.ofRequest r = .ok p) (none : p.levels = []) :
    r.requiresLevels = false := by
  rw [requiresLevels, List.any_eq_false]
  intro c asked
  cases c with
  | level changed ids =>
    have listed := ((JoinPlan.mem_of_condition planned asked rfl).2 _ List.mem_cons_self).1
    rw [none] at listed
    cases listed
  | _ => exact Bool.false_ne_true

end Answers

/-- A request without columns, read from a payload and answered from a store without double keys, lists the
actors of the store that meet all conditions, in ascending order and each once. Levels are those of the
ladder that is resolved for the request. -/
theorem Service.ids_of_compile {x : Service} {s : Store} (stored : x.database.store = some s) (keyed : s.WellKeyed)
    {json : Json} {r : Request} (parsed : Payload.readRequest json = .ok r) (noColumns : r.columns = [])
    {bots : Option (List String)} {clock : List Float} {answer : Answer}
    (h : ((x.compile bots r).run clock).result = .ok answer) :
    ∃ ladder ids, ((x.resources.resolveLadder r).run clock).result = .ok ladder ∧ answer = .ids ids ∧
      ids.Pairwise (· < ·) ∧ (∀ id ∈ ids, ∃ a ∈ s.actors, a.id = id) ∧
      ∀ a ∈ s.actors, a.id ∈ ids ↔ ∀ c ∈ r.conditions, s.Meets r.window ladder a c := by
  obtain ⟨ladder, flagless, p, q, resolved, planned, built, answered⟩ := answer_of_compile h
  obtain rfl := Query.plan_of_ofPlan built
  have countsNoLogs := Payload.not_countsLogs_of_readRequest parsed
  obtain ⟨rfl, levelled⟩ := ids_of_answer stored noColumns (Request.requiresLevels_eq_false planned) answered
  refine ⟨ladder, _, resolved, rfl, ?_, ?_, fun a listed => ⟨fun found => ?_, fun meets => ?_⟩⟩
  -- the order is the one of the matching rows, of which some are kept
  · exact List.pairwise_map.2 ((Query.pairwise_matching keyed).sublist List.filter_sublist)
  · intro id found
    obtain ⟨j, kept, rfl⟩ := List.mem_map.1 found
    have joined := (Query.mem_matching.1 (List.mem_filter.1 kept).1).1
    exact ⟨j.actor, (keyed.eq_joinedRow_of_mem joined).2.1, rfl⟩
  -- who is listed has a row that the joins, the predicates and the levels have kept
  · obtain ⟨j, kept, same⟩ := List.mem_map.1 found
    obtain ⟨matched, keepsLevels⟩ := List.mem_filter.1 kept
    obtain ⟨joined, holds⟩ := Query.mem_matching.1 matched
    obtain rfl : j.actor = a :=
      List.inj_on_of_nodup_map keyed.actors (keyed.eq_joinedRow_of_mem joined).2.1 listed same
    obtain ⟨row, own⟩ := levelled j matched
    rw [JoinedRow.keepsLevels, own] at keepsLevels
    intro c asked
    cases isLevel : c.isLevel with
    | false => exact (keyed.holds_all_iff planned built noColumns countsNoLogs joined).1 holds c asked isLevel
    | true => exact (keyed.keepsLevels_iff planned joined own).1 keepsLevels c asked isLevel
  -- who meets all conditions is dropped by none of the three
  · have joined : s.joinedRow (x.settings.naming r.wikiId).actorTable q.plan a ∈
        s.joined (x.settings.naming r.wikiId).actorTable q.plan := by
      rw [keyed.joined_eq]
      exact List.mem_map.2 ⟨a, List.mem_filter.2 ⟨listed, Store.keeps_of_meets planned noColumns meets⟩, rfl⟩
    have matched := Query.mem_matching.2 ⟨joined, (keyed.holds_all_iff planned built noColumns countsNoLogs joined).2
      fun c asked _ => meets c asked⟩
    obtain ⟨row, own⟩ := levelled _ matched
    refine List.mem_map.2 ⟨_, List.mem_filter.2 ⟨matched, ?_⟩, rfl⟩
    rw [JoinedRow.keepsLevels, own]
    exact (keyed.keepsLevels_iff planned joined own).2 fun c asked _ => meets c asked

/-- Asked for actors with four edits or more, the small service lists one, and it is the one who meets this. -/
theorem Service.ids_of_small :
    ∃ r ids, Payload.readRequest (.object [("wikiId", .text "w"),
        ("requirements", .object [("totalEditsAtLeast", .int 4)]), ("endDate", .text "2023-12-31")]) = .ok r ∧
      Store.small.WellKeyed ∧ r.columns = [] ∧ ((Service.small.compile none r).run []).result = .ok (.ids ids) ∧
      ids.length = 1 ∧ ids.Pairwise (· < ·) ∧ ∀ a ∈ Store.small.actors,
        a.id ∈ ids ↔ ∀ c ∈ r.conditions, Store.small.Meets r.window none a c := by
  obtain ⟨r, parsed, noColumns, succeeds, ladder⟩ : ∃ r, Payload.readRequest (.object [("wikiId", .text "w"),
        ("requirements", .object [("totalEditsAtLeast", .int 4)]), ("endDate", .text "2023-12-31")]) = .ok r ∧
      r.columns = [] ∧
      (((Service.small.compile none r).run []).result.toOption.any fun a => a.size == 1) = true ∧
      ((Service.small.resources.resolveLadder r).run []).result = .ok none :=
    ⟨_, rfl, rfl, by decide +kernel, rfl⟩
  obtain ⟨answer, compiled, size⟩ := exists_of_any succeeds
  obtain ⟨ladder', ids, resolved, rfl, ascending, -, listed⟩ :=
    ids_of_compile rfl Store.wellKeyed_small parsed noColumns compiled
  obtain rfl : none = ladder' := Except.ok.inj (ladder.symm.trans resolved)
  exact ⟨r, ids, parsed, Store.wellKeyed_small, noColumns, compiled, eq_of_beq size, ascending, listed⟩

end ActivityReport
