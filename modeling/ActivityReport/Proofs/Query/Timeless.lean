import ActivityReport.Proofs.Plan.Timeless
import ActivityReport.Proofs.Query.Replacement

/-!
# Queries without a first day

What lies before the first day of a window counts as 0 where there is nothing, and is a 0 where the window has no
first day. So in a store whose rows all lie in the window the query of a request returns the same rows without that
day, but for the totals of the level before it (`Query.rows_withoutStart`).
-/

namespace ActivityReport

variable {first : Date}

/-! ## Expressions -/

/-- Whether a row has nothing before a day. -/
def JoinedRow.NothingBefore (first : Date) (j : JoinedRow) : Prop := ∀ k, k.IsBefore first → j.snapshot? k = none

namespace Window

variable {w : Window} {d : Dimension} {counter : Counter} {scope : Scope}

/-- A 0 stands for the total before the first day. -/
lemma atStart_standsFor (start : w.start = some first) :
    (w.withoutStart.atStart d counter scope).StandsFor (JoinedRow.NothingBefore first) (w.atStart d counter scope) := by
  rw [atStart, atStart, start]
  show Sum.StandsFor _ .none (.total ⟨d, .before, first, scope⟩ counter)
  refine ⟨fun j nothing => ?_, ?_, le_rfl⟩
  · rw [Sum.eval, Sum.eval, nothing _ ⟨rfl, rfl⟩]
  · show 1 ≤ 4
    decide

lemma overSpan_standsFor (start : w.start = some first) (span : Span) :
    (w.withoutStart.overSpan d span counter scope).StandsFor (JoinedRow.NothingBefore first)
      (w.overSpan d span counter scope) := by
  cases span with
  | sinceRegistration => exact .refl _
  | inPeriod => exact Sum.StandsFor.minus (.refl _) (w.atStart_standsFor start)

lemma overScopes_standsFor (start : w.start = some first) (span : Span) (scopes : List Scope) :
    (w.withoutStart.overScopes d span counter scopes).StandsFor (JoinedRow.NothingBefore first)
      (w.overScopes d span counter scopes) :=
  Sum.StandsFor.ofList_map scopes fun _ => w.overSpan_standsFor start span

end Window

variable {w : Window}

/-- The expression of a column without the first day stands for the one with it. -/
lemma Column.standsFor_withoutStart (start : w.start = some first) (c : Column) :
    Option.Rel (Expression.StandsFor (JoinedRow.NothingBefore first)) (c.expression? w.withoutStart)
      (c.expression? w) := by
  unfold expression?
  cases c.type with
  | rowNumber | userName | userGroups | level moment => exact .none
  | count counter span ratio form =>
    refine .some ?_
    cases ratio with
    | none => exact .amount (w.overScopes_standsFor start span _)
    | wikiTotal => exact .share (w.overScopes_standsFor start span _) (w.overScopes_standsFor start span _)
    | ownTotalEdits => exact .share (w.overScopes_standsFor start span _) (w.overSpan_standsFor start span)
  | averagePerDay counter span =>
    exact .some (.share (w.overSpan_standsFor start span) (w.overSpan_standsFor start span))
  | milestone counter =>
    dsimp only
    split
    · exact .some (.refl _)
    · exact .some (.milestone (w.atStart_standsFor start) (.refl _) _)
  | _ => exact .some (.refl _)

/-- The predicate of a condition without the first day stands for the one with it. -/
lemma Condition.standsFor_withoutStart (start : w.start = some first) {c : Condition} (avoids : c.AvoidsStart) :
    Corresponds (Option.Rel (Predicate.StandsFor (JoinedRow.NothingBefore first)))
      (c.predicate? w.withoutStart) (c.predicate? w) := by
  have self : ∀ result : Except QueryFault (Option Predicate),
      Corresponds (Option.Rel (Predicate.StandsFor (JoinedRow.NothingBefore first))) result result := by
    intro result
    refine (Corresponds.refl result).mono ?_
    rintro predicate _ rfl
    cases predicate with
    | none => exact .none
    | some predicate => exact .some (.refl predicate)
  cases c with
  | threshold t =>
    have same : t.predicate? w.withoutStart = t.predicate? w := by
      unfold Threshold.predicate?
      simp only [Window.bounds_withoutStart (avoids t rfl), Window.resolve_withoutStart (avoids t rfl)]
    show Corresponds _ (t.predicate? w.withoutStart) (t.predicate? w)
    rw [same]
    exact self _
  | milestone counter milestones =>
    cases milestones with
    | nil => exact self _
    | cons m rest => exact .ok (.some (.crossed (w.atStart_standsFor start) (.refl _) _))
  | _ => exact self _

/-! ## Queries -/

/-- A plan that reads less is no larger. -/
lemma JoinPlan.Lessens.noLarger {p' p : JoinPlan} (h : p'.Lessens first p) : p'.NoLarger p where
  snapshots := List.subperm_of_subset h.nodup h.subset
  ranges := h.ranges
  levels := by
    rw [h.levels]
    exact List.filter_sublist.subperm

/-- Without the first day of its window a request has a query that stands for the one with it. -/
lemma Query.ofRequest_withoutStart {r : Request} (start : r.window.start = some first)
    (avoids : ∀ c ∈ r.conditions, c.AvoidsStart) :
    Corresponds (fun q' q => q'.StandsFor (JoinedRow.NothingBefore first) q ∧ q'.plan.Lessens first q.plan)
      (ofRequest r.withoutStart) (ofRequest r) := by
  have conditions : List.Forall₂ (fun c' c => c' = c ∧ c.AvoidsStart) r.conditions r.conditions :=
    List.forall₂_same.2 fun c listed => ⟨rfl, avoids c listed⟩
  have required : Corresponds
      (List.Forall₂ (Option.Rel (Predicate.StandsFor (JoinedRow.NothingBefore first))))
      (r.conditions.mapM (·.predicate? r.window.withoutStart)) (r.conditions.mapM (·.predicate? r.window)) := by
    refine Corresponds.mapM conditions ?_
    rintro _ c ⟨rfl, avoids⟩
    exact Condition.standsFor_withoutStart start avoids
  unfold ofRequest
  refine (JoinPlan.ofRequest_withoutStart start avoids).mapError.bind fun p' p lessened => ?_
  unfold ofPlan
  refine required.bind fun required' required same => ?_
  refine .ok ⟨⟨lessened.noLarger, ?_, ?_⟩, lessened⟩
  · show List.Forall₂ _ (r.columns.map _) (r.columns.map _)
    rw [List.forall₂_map_left_iff, List.forall₂_map_right_iff, List.forall₂_same]
    exact fun c _ => c.standsFor_withoutStart start
  · have columns : List.Forall₂ (fun c' c => c' = c) r.columns r.columns := List.forall₂_same.2 fun _ _ => rfl
    refine List.rel_append (List.rel_flatMap columns ?_) (List.rel_filterMap (fun _ _ same => same) same)
    rintro c _ rfl
    exact Column.predicates_standsFor (c.standsFor_withoutStart start) rfl

/-! ## Rows -/

/-- Whether a store has no counters before a day. -/
def Store.StartsAt (s : Store) (first : Date) : Prop := ∀ row ∈ s.counters, first ≤ row.date

/-- Whether a row of a query is another one, but for totals before a day, of which there are none in the other
row or they are 0. -/
structure RawRow.Lessens (first : Date) (row' row : RawRow) : Prop where
  id : row'.id = row.id
  name : row'.name = row.name
  column : ∀ i, row'.cell (.column i) = row.cell (.column i)
  level : ∀ l counter, l ≠ ⟨.before, first⟩ → row'.cell (.levelTotal l counter) = row.cell (.levelTotal l counter)
  start : ∀ counter, row.cell (.levelTotal ⟨.before, first⟩ counter) = .null ∨
    row.cell (.levelTotal ⟨.before, first⟩ counter) = .int 0

namespace Store

variable {s : Store} {actorTable : String} {p p' : JoinPlan} {q q' : Query} {k : SnapshotKey} {a : Actor}

/-- Nothing is found before the first day of all. -/
lemma StartsAt.snapshotRow?_eq_none (starts : s.StartsAt first) (before : k.IsBefore first) (actorId : Int) :
    s.snapshotRow? actorTable k actorId = none := by
  have latest : s.latestRow? k actorId = none := by
    refine latestRow?_eq_none_iff.2 fun row listed => ?_
    have late : ¬ row.date < k.date := by
      rw [before.2]
      exact Nat.not_lt.2 (starts row listed)
    simp [SnapshotKey.sees, Boundary.admits, before.1, late]
  rw [snapshotRow?, latest, ite_self]

/-- A joined row has nothing under a key that was not planned. -/
lemma snapshot?_joinedRow_of_not_mem (unplanned : k ∉ p.snapshots) :
    (s.joinedRow actorTable p a).snapshot? k = none := by
  have other : ∀ keys : List SnapshotKey, k ∉ keys →
      JoinedRow.find? k (keys.map fun k => (k, s.snapshotRow? actorTable k a.id)) = none := by
    intro keys
    induction keys with
    | nil => exact fun _ => rfl
    | cons k' rest ih =>
      intro unlisted
      rw [List.mem_cons, not_or] at unlisted
      rw [List.map_cons, JoinedRow.find?, if_neg (Ne.symm unlisted.1), ih unlisted.2]
  exact other p.snapshots unplanned

lemma StartsAt.nothingBefore (starts : s.StartsAt first) : (s.joinedRow actorTable p a).NothingBefore first := by
  intro k before
  by_cases planned : k ∈ p.snapshots
  · rw [snapshot?_joinedRow planned, starts.snapshotRow?_eq_none before]
  · exact snapshot?_joinedRow_of_not_mem planned

/-- A plan that reads less before the first day of all brings the same. -/
lemma StartsAt.snapshot?_joinedRow (starts : s.StartsAt first) (h : p'.Lessens first p) (k : SnapshotKey) :
    (s.joinedRow actorTable p' a).snapshot? k = (s.joinedRow actorTable p a).snapshot? k := by
  by_cases before : k.IsBefore first
  · rw [starts.nothingBefore k before, starts.nothingBefore k before]
  · by_cases planned : k ∈ p.snapshots
    · rw [Store.snapshot?_joinedRow planned, Store.snapshot?_joinedRow (h.others k planned before)]
    · rw [snapshot?_joinedRow_of_not_mem planned, snapshot?_joinedRow_of_not_mem fun own => planned (h.subset own)]

end Store

/-- The actors whose rows a query returns, in order. -/
def Query.listed (s : Store) (actorTable : String) (q : Query) : List Actor :=
  (s.actors.filter fun a => q.predicates.all (·.holds s (s.joinedRow actorTable q.plan a)) &&
    s.keeps actorTable q.plan a.id).mergeSort fun a b => a.id ≤ b.id

/-- The rows of a query are those of the listed actors. -/
lemma Store.WellKeyed.matching_eq {s : Store} (keyed : s.WellKeyed) (actorTable : String) (q : Query) :
    q.matching s actorTable = (q.listed s actorTable).map (s.joinedRow actorTable q.plan) := by
  unfold Query.matching Query.listed
  rw [keyed.joined_eq, List.filter_map, List.filter_filter]
  symm
  refine List.map_mergeSort fun a _ b _ => ?_
  rfl

/-- Whether two joined rows are of one actor and bring the same under every key. -/
structure JoinedRow.Alike (j' j : JoinedRow) : Prop where
  actor : j'.actor = j.actor
  snapshots : ∀ k, j'.snapshot? k = j.snapshot? k
  ranges : ∀ k, j'.range? k = j.range? k

namespace JoinedRow.Alike

variable {j j' : JoinedRow}

lemma eval_expression (h : j'.Alike j) (e : Expression) : e.eval j' = e.eval j :=
  Expression.eval_congr h.actor (fun k _ => h.snapshots k) fun k _ => h.ranges k

lemma eval_sum (h : j'.Alike j) (a : Sum) : a.eval j' = a.eval j := Sum.eval_congr fun k _ => h.snapshots k

lemma holds (h : j'.Alike j) (s : Store) (p : Predicate) : p.holds s j' = p.holds s j :=
  Predicate.holds_congr h.actor (fun k _ => h.snapshots k) fun k _ => h.ranges k

lemma column_cell (h : j'.Alike j) (q : Query) (i : Nat) :
    (RawRow.ofJoined q j').cell (.column i) = (RawRow.ofJoined q j).cell (.column i) := by
  unfold RawRow.ofJoined
  dsimp only
  split
  · exact h.eval_expression _
  · rfl

end JoinedRow.Alike

namespace Store

variable {s : Store} {n : Naming} {p p' : JoinPlan} {q q' : Query} {a : Actor}

/-- The same actors are kept by a plan that reads less before the first day. -/
lemma keeps_of_lessens (h : p'.Lessens first p) (actorId : Int) :
    s.keeps n.actorTable p' actorId = s.keeps n.actorTable p actorId := by
  have ends : ∀ day, (⟨.actor, .finish, day, .whole⟩ : SnapshotKey) ∈ p'.snapshots ↔
      (⟨.actor, .finish, day, .whole⟩ : SnapshotKey) ∈ p.snapshots :=
    fun day => ⟨fun own => h.subset own, fun own => h.others _ own fun before => by cases before.1⟩
  rw [Bool.eq_iff_iff, keeps_iff, keeps_iff, h.ranges]
  simp only [ends]

/-- In the row of an actor the same predicates hold, and the same values are selected. -/
lemma StartsAt.lessens_ofJoined (starts : s.StartsAt first) (h : q'.StandsFor (JoinedRow.NothingBefore first) q)
    (plan : q'.plan.Lessens first q.plan) (actorTable : String) (a : Actor) :
    (q'.predicates.all (·.holds s (s.joinedRow actorTable q'.plan a)) =
      q.predicates.all (·.holds s (s.joinedRow actorTable q.plan a))) ∧
    (RawRow.ofJoined q' (s.joinedRow actorTable q'.plan a)).Lessens first
      (RawRow.ofJoined q (s.joinedRow actorTable q.plan a)) := by
  have nothing : (s.joinedRow actorTable q.plan a).NothingBefore first := starts.nothingBefore
  have alike : (s.joinedRow actorTable q'.plan a).Alike (s.joinedRow actorTable q.plan a) := by
    refine ⟨rfl, starts.snapshot?_joinedRow plan, fun k => ?_⟩
    unfold JoinedRow.range? joinedRow
    rw [plan.ranges]
  refine ⟨?_, rfl, rfl, fun i => ?_, fun l counter late => ?_, fun counter => ?_⟩
  · rw [← h.holds_eq s nothing]
    simp only [alike.holds s]
  · rw [alike.column_cell, h.column_cell_eq nothing]
  · show RawRow.levelCell _ q'.plan.levels l counter = RawRow.levelCell _ q.plan.levels l counter
    have listed : q'.plan.levels.contains l = q.plan.levels.contains l := by
      rw [plan.levels, Bool.eq_iff_iff, List.contains_iff_mem, List.contains_iff_mem, List.mem_filter]
      simp [late]
    unfold RawRow.levelCell
    rw [listed, alike.eval_sum]
  · show RawRow.levelCell _ q.plan.levels _ counter = .null ∨ RawRow.levelCell _ q.plan.levels _ counter = .int 0
    unfold RawRow.levelCell
    split
    · rw [Sum.eval, nothing _ ⟨rfl, rfl⟩]
      exact Or.inr rfl
    · exact Or.inl rfl

/-- Without the first day a query returns the same rows, but for the totals of the level before it. -/
lemma StartsAt.rows_lessen (starts : s.StartsAt first) (keyed : s.WellKeyed)
    (h : q'.StandsFor (JoinedRow.NothingBefore first) q) (plan : q'.plan.Lessens first q.plan) :
    List.Forall₂ (RawRow.Lessens first) (q'.rows s n.actorTable) (q.rows s n.actorTable) := by
  have listed : q'.listed s n.actorTable = q.listed s n.actorTable := by
    unfold Query.listed
    refine congrArg (List.mergeSort · _) (List.filter_congr fun a _ => ?_)
    rw [(starts.lessens_ofJoined h plan n.actorTable a).1, keeps_of_lessens plan]
  unfold Query.rows
  rw [keyed.matching_eq, keyed.matching_eq, listed, List.map_map, List.map_map, List.forall₂_map_left_iff,
    List.forall₂_map_right_iff, List.forall₂_same]
  exact fun a _ => (starts.lessens_ofJoined h plan n.actorTable a).2

end Store

/-- Without the first day the numbers of a query fit a word if they do with it. -/
lemma Query.StandsFor.all_parameters {q q' : Query} (h : q'.StandsFor (JoinedRow.NothingBefore first) q)
    (plan : q'.plan.Lessens first q.plan) (fits : Int → Bool) : q'.parameters.all fits = q.parameters.all fits := by
  have scopes : q'.plan.parameters.all fits = q.plan.parameters.all fits := by
    rw [Bool.eq_iff_iff, List.all_eq_true, List.all_eq_true]
    refine ⟨fun all n listed => ?_, fun all n listed => ?_⟩
    · obtain ⟨k, read, own⟩ := List.mem_flatMap.1 listed
      rcases plan.scopes k read with whole | ⟨k', read', same⟩
      · rw [whole] at own
        cases own
      · exact all n (List.mem_flatMap.2 ⟨k', read', same ▸ own⟩)
    · obtain ⟨k, read, own⟩ := List.mem_flatMap.1 listed
      exact all n (List.mem_flatMap.2 ⟨k, plan.subset read, own⟩)
  rw [h.parameters_eq, Query.parameters, List.all_append, List.all_append, List.all_append, List.all_append, scopes]

end ActivityReport
