import Mathlib
import ActivityReport.Proofs.Trace.Outcome
import ActivityReport.Query.Limits
import ActivityReport.Store.Database

/-!
# Smaller queries

A query is no larger than another one when its expressions and its conditions are no larger, one by one, and
its plan reads nothing that the other plan does not read (`Query.NoLarger`). What the database takes it takes
of such a query as well. The joins are so few that their part of the chain of conditions does not matter; the
order in which they stand in it may be another one.
-/

namespace ActivityReport

/-! ## Greatest and total -/

lemma foldl_max_le_iff {list : List Nat} {first bound : Nat} :
    list.foldl max first ≤ bound ↔ first ≤ bound ∧ ∀ n ∈ list, n ≤ bound := by
  induction list generalizing first with
  | nil => simp
  | cons n rest ih => rw [List.foldl_cons, ih, max_le_iff, List.forall_mem_cons, and_assoc]

/-- A function of fewer items, in any order. -/
lemma subperm_map {α β : Type} {list list' : List α} (h : list'.Subperm list) (f : α → β) :
    (list'.map f).Subperm (list.map f) := by
  obtain ⟨between, perm, sub⟩ := h
  exact ⟨between.map f, perm.map f, sub.map f⟩

/-- Fewer numbers have a smaller sum. -/
lemma sum_map_le_of_subperm {α : Type} {list list' : List α} (h : list'.Subperm list) (f : α → Nat) :
    (list'.map f).sum ≤ (list.map f).sum := by
  obtain ⟨between, perm, sub⟩ := h
  rw [← (perm.map f).sum_eq]
  exact (sub.map f).sum_le_sum fun _ _ => Nat.zero_le _

lemma foldl_add_eq_sum (list : List Nat) : list.foldl (· + ·) 0 = list.sum := (List.sum_eq_foldl).symm

/-! ## Chains -/

/-- A chain with one more term. -/
def link (depth term : Nat) : Nat := max depth term + 1

lemma chainDepth_cons (first : Nat) (rest : List Nat) : chainDepth (first :: rest) = rest.foldl link first := rfl

lemma foldl_link_mono {list list' : List Nat} (shorter : List.Forall₂ (· ≤ ·) list' list) {first first' : Nat}
    (le : first' ≤ first) : list'.foldl link first' ≤ list.foldl link first := by
  refine List.rel_foldl (P := (· ≤ ·)) (R := (· ≤ ·)) (fun depth' depth le term' term le' => ?_) le shorter
  unfold link
  omega

lemma foldl_link_le (list : List Nat) (first : Nat) {bound : Nat} (terms : ∀ n ∈ list, n ≤ bound) :
    list.foldl link first ≤ max first bound + list.length := by
  induction list generalizing first with
  | nil => simp
  | cons n rest ih =>
    obtain ⟨term, terms⟩ := List.forall_mem_cons.1 terms
    refine (ih _ terms).trans ?_
    rw [List.length_cons, link]
    omega

lemma le_foldl_link (list : List Nat) (first : Nat) : first + list.length ≤ list.foldl link first := by
  induction list generalizing first with
  | nil => simp
  | cons n rest ih =>
    refine le_trans ?_ (ih (link first n))
    rw [List.length_cons, link]
    omega

/-- Terms of a chain that are no deeper make no deeper chain. -/
lemma chainDepth_mono {list list' : List Nat} (shorter : List.Forall₂ (· ≤ ·) list' list) :
    chainDepth list' ≤ chainDepth list := by
  cases shorter with
  | nil => exact le_rfl
  | cons first rest => exact foldl_link_mono rest first

/-- At the end of a chain few terms of small depth may be left out or change places. -/
lemma chainDepth_append_le {front front' back back' : List Nat} (shorter : List.Forall₂ (· ≤ ·) front' front)
    {bound few : Nat} (terms : ∀ n ∈ back', n ≤ bound) (fewer : back'.length ≤ back.length)
    (length : back'.length ≤ few) :
    chainDepth (front' ++ back') ≤ max (chainDepth (front ++ back)) (bound + few) := by
  cases shorter with
  | nil =>
    cases back' with
    | nil => exact Nat.zero_le _
    | cons n rest =>
      obtain ⟨term, terms⟩ := List.forall_mem_cons.1 terms
      have deep := foldl_link_le rest n terms
      rw [List.length_cons] at length
      rw [List.nil_append, chainDepth_cons]
      omega
  | @cons first' first rest' rest le shorter =>
    rw [List.cons_append, List.cons_append, chainDepth_cons, chainDepth_cons, List.foldl_append, List.foldl_append]
    have before := foldl_link_mono shorter le
    have deep := foldl_link_le back' (rest'.foldl link first') terms
    have deep' := le_foldl_link back (rest.foldl link first)
    omega

/-! ## Sizes -/

/-- Whether an expression is no larger than another one. -/
structure Expression.NoLarger (e' e : Expression) : Prop where
  depth : e'.depth ≤ e.depth
  arity : e'.arity ≤ e.arity
  places : e'.places ≤ e.places

/-- Whether a part of the chain of conditions is no larger than another one. -/
structure Conjunct.NoLarger (c' c : Conjunct) : Prop where
  depth : c'.depth ≤ c.depth
  nested : c'.nested ≤ c.nested

/-- Whether a predicate is no larger than another one. -/
structure Predicate.NoLarger (p' p : Predicate) : Prop where
  conjuncts : List.Forall₂ Conjunct.NoLarger p'.conjuncts p.conjuncts
  places : p'.places ≤ p.places

/-- Whether a plan reads nothing that another one does not read. -/
structure JoinPlan.NoLarger (p' p : JoinPlan) : Prop where
  snapshots : p'.snapshots.Subperm p.snapshots
  ranges : p'.ranges = p.ranges
  levels : p'.levels.Subperm p.levels

/-- Whether a query is no larger than another one. -/
structure Query.NoLarger (q' q : Query) : Prop where
  plan : q'.plan.NoLarger q.plan
  columns : List.Forall₂ (Option.Rel Expression.NoLarger) q'.columns q.columns
  predicates : List.Forall₂ Predicate.NoLarger q'.predicates q.predicates

lemma Scope.columnCount_le (s : Scope) : s.columnCount ≤ 2 := by
  unfold columnCount
  split <;> omega

/-- Alternatives of shorter chains make no larger part. -/
lemma Predicate.alternatives_mono {options options' : List (List Nat)}
    (shorter : List.Forall₂ (List.Forall₂ (· ≤ ·)) options' options) :
    List.Forall₂ Conjunct.NoLarger (alternatives options') (alternatives options) := by
  cases shorter with
  | nil => exact .nil
  | cons first rest =>
    cases rest with
    | nil => exact List.rel_map (fun _ _ le => ⟨le, le_rfl⟩) first
    | cons second rest =>
      have depths := List.rel_map (R := List.Forall₂ (· ≤ ·)) (P := (· ≤ ·))
        (fun _ _ shorter => chainDepth_mono shorter) (.cons first (.cons second rest))
      exact .cons ⟨chainDepth_mono depths, le_rfl⟩ .nil

/-- The part that the joins of a plan add to the chain of conditions. -/
def JoinPlan.conjuncts (p : JoinPlan) : List Conjunct :=
  p.snapshots.map SnapshotKey.conjunct ++ p.ranges.map fun _ => .flat equationDepth

lemma Query.conjuncts_eq (q : Query) :
    q.conjuncts = q.predicates.flatMap Predicate.conjuncts ++ q.plan.conjuncts := List.append_assoc ..

/-- The part of a snapshot's join in the chain of conditions is small. -/
lemma SnapshotKey.conjunct_le (k : SnapshotKey) : k.conjunct.depth ≤ 9 ∧ k.conjunct.nested ≤ 6 := by
  have few : k.scope.columnCount + (if k.dimension = .actor then 1 else 0) ≤ 3 := by
    have := k.scope.columnCount_le
    split <;> omega
  unfold conjunct
  generalize k.scope.columnCount + (if k.dimension = .actor then 1 else 0) = others at few ⊢
  interval_cases others <;> decide

/-- The joins of a plan have small parts in the chain of conditions. -/
lemma JoinPlan.conjunct_le {p : JoinPlan} {c : Conjunct} (listed : c ∈ p.conjuncts) : c.depth ≤ 9 ∧ c.nested ≤ 6 := by
  rcases List.mem_append.1 listed with listed | listed
  · obtain ⟨k, -, rfl⟩ := List.mem_map.1 listed
    exact k.conjunct_le
  · obtain ⟨k, -, rfl⟩ := List.mem_map.1 listed
    decide

lemma JoinPlan.length_conjuncts (p : JoinPlan) : p.conjuncts.length = p.joinCount := by
  rw [conjuncts, List.length_append, List.length_map, List.length_map, joinCount]

/-- A query inside a predicate is small. -/
lemma Predicate.nested_le {p : Predicate} {c : Conjunct} (listed : c ∈ p.conjuncts) : c.nested ≤ 6 := by
  have flat : ∀ options, c ∈ alternatives options → c.nested ≤ 6 := by
    intro options listed
    unfold alternatives at listed
    split at listed
    · cases listed
    · obtain ⟨n, -, rfl⟩ := List.mem_map.1 listed
      exact Nat.zero_le _
    · rw [List.mem_singleton.1 listed]
      exact Nat.zero_le _
  cases p with
  | positive | registrationAge | bound =>
    simp only [conjuncts, List.mem_cons, List.not_mem_nil, or_false] at listed
    rcases listed with rfl | rfl | rfl <;> exact Nat.zero_le _
  | status | crossed => exact flat _ listed
  | inGroups names | notInGroups names =>
    rw [List.mem_singleton.1 listed]
    unfold conjuncts.inGroup
    cases names with
    | nil => exact le_refl 6
    | cons => exact (by decide : 4 ≤ 6)
  | hasTemplates | hasNoTemplates =>
    obtain ⟨_, -, rfl⟩ := List.mem_map.1 listed
    decide

/-! ## What the database takes -/

namespace JoinPlan.NoLarger

variable {p p' : JoinPlan}

/-- A plan that reads no more joins no more tables. -/
lemma joinCount_le (h : p'.NoLarger p) : p'.joinCount ≤ p.joinCount := by
  unfold joinCount
  rw [h.ranges]
  exact Nat.add_le_add_right h.snapshots.length_le _

/-- A plan can be joined when it reads no more than one that can. -/
lemma isJoinable (h : p'.NoLarger p) {actorTable : String} (joinable : p.isJoinable actorTable = true) :
    p'.isJoinable actorTable = true := by
  unfold JoinPlan.isJoinable at joinable ⊢
  rw [Bool.and_eq_true, decide_eq_true_eq, decide_eq_true_eq] at joinable ⊢
  obtain ⟨few, distinct⟩ := joinable
  refine ⟨lt_of_le_of_lt h.joinCount_le few, ?_⟩
  have names : ((actorTable :: p'.joinNames).map asciiLower).Subperm ((actorTable :: p.joinNames).map asciiLower) := by
    unfold joinNames
    rw [h.ranges]
    refine subperm_map ?_ _
    rw [List.subperm_cons, List.subperm_append_right]
    exact subperm_map h.snapshots _
  obtain ⟨list, perm, sub⟩ := names
  exact perm.nodup_iff.1 (distinct.sublist sub)

end JoinPlan.NoLarger

namespace Query.NoLarger

variable {q q' : Query}

/-- The values of columns are no larger, one by one. -/
lemma values (h : q'.NoLarger q) :
    List.Forall₂ Expression.NoLarger (q'.columns.filterMap id) (q.columns.filterMap id) :=
  List.rel_filterMap (fun _ _ same => same) h.columns

/-- Queries inside conditions are no deeper, and they are small. -/
lemma nested_le (h : q'.NoLarger q) :
    (q'.conjuncts.map Conjunct.nested).foldl max 0 ≤ (q.conjuncts.map Conjunct.nested).foldl max 0 ∧
      (q'.conjuncts.map Conjunct.nested).foldl max 0 ≤ 6 := by
  obtain ⟨-, greatest⟩ := foldl_max_le_iff.1 (le_refl ((q.conjuncts.map Conjunct.nested).foldl max 0))
  rw [foldl_max_le_iff, foldl_max_le_iff, q'.conjuncts_eq]
  refine ⟨⟨Nat.zero_le _, ?_⟩, Nat.zero_le _, ?_⟩
  all_goals
    intro n listed
    obtain ⟨c, own, rfl⟩ := List.mem_map.1 listed
    rcases List.mem_append.1 own with own | own
  · obtain ⟨c', own', within⟩ :=
      exists_of_mem_forall₂ (List.rel_flatMap h.predicates fun _ _ within => within.conjuncts) own
    refine within.nested.trans (greatest _ (List.mem_map_of_mem ?_))
    rw [q.conjuncts_eq]
    exact List.mem_append_left _ own'
  · refine greatest _ (List.mem_map_of_mem ?_)
    rw [q.conjuncts_eq]
    refine List.mem_append_right _ ?_
    unfold JoinPlan.conjuncts at own ⊢
    rw [h.plan.ranges] at own
    rw [List.mem_append] at own ⊢
    exact own.imp_left fun own => (subperm_map h.plan.snapshots _).subset own
  · obtain ⟨p, -, own⟩ := List.mem_flatMap.1 own
    exact Predicate.nested_le own
  · exact (JoinPlan.conjunct_le own).2

/-- The chain of conditions is no deeper, or it is not deep at all. -/
lemma conditionDepth_le (h : q'.NoLarger q) (few : q.plan.joinCount < maxTables) (shallow : q.conditionDepth ≤ 1000) :
    q'.conditionDepth ≤ 1000 := by
  obtain ⟨nested, small⟩ := h.nested_le
  have front : List.Forall₂ (· ≤ ·) ((q'.predicates.flatMap Predicate.conjuncts).map Conjunct.depth)
      ((q.predicates.flatMap Predicate.conjuncts).map Conjunct.depth) :=
    List.rel_map (fun _ _ within => within.depth)
      (List.rel_flatMap h.predicates fun _ _ within => within.conjuncts)
  have few' : q'.plan.joinCount ≤ 63 := by
    have := h.plan.joinCount_le
    unfold maxTables at few
    omega
  have chain : chainDepth ((q'.predicates.flatMap Predicate.conjuncts).map Conjunct.depth ++
        q'.plan.conjuncts.map Conjunct.depth) ≤
      max (chainDepth ((q.predicates.flatMap Predicate.conjuncts).map Conjunct.depth ++
        q.plan.conjuncts.map Conjunct.depth)) (9 + 63) := by
    refine chainDepth_append_le front ?_ ?_ ?_
    · intro n listed
      obtain ⟨c, own, rfl⟩ := List.mem_map.1 listed
      exact (JoinPlan.conjunct_le own).1
    · rw [List.length_map, List.length_map, JoinPlan.length_conjuncts, JoinPlan.length_conjuncts]
      exact h.plan.joinCount_le
    · rw [List.length_map, JoinPlan.length_conjuncts]
      exact few'
  rw [← List.map_append, ← List.map_append, ← Query.conjuncts_eq, ← Query.conjuncts_eq] at chain
  unfold conditionDepth at shallow ⊢
  omega

lemma depth_le (h : q'.NoLarger q) (few : q.plan.joinCount < maxTables) (shallow : q.depth ≤ 1000) :
    q'.depth ≤ 1000 := by
  unfold depth at shallow ⊢
  rw [foldl_max_le_iff] at shallow ⊢
  obtain ⟨conditions, values⟩ := shallow
  refine ⟨h.conditionDepth_le few conditions, ?_⟩
  rintro _ listed
  obtain ⟨e', own, rfl⟩ := List.mem_map.1 listed
  obtain ⟨e, own, within⟩ := exists_of_mem_forall₂ h.values own
  exact within.depth.trans (values _ (List.mem_map_of_mem own))

lemma arity_le (h : q'.NoLarger q) : q'.arity ≤ q.arity := by
  have arities : List.Forall₂ (· ≤ ·) ((q'.columns.filterMap id).map Expression.arity)
      ((q.columns.filterMap id).map Expression.arity) := List.rel_map (fun _ _ within => within.arity) h.values
  exact List.rel_foldl (P := (· ≤ ·)) (R := (· ≤ ·)) (fun _ _ le _ _ le' => max_le_max le le') le_rfl arities

/-- The same columns have values of their own. -/
lemma labels_eq (h : q'.NoLarger q) : q'.labels = q.labels := by
  have columns := h.columns
  have some : ∀ (i : Nat) (label : Label), q'.columns[i]?.map (fun e => e.map fun _ => label) =
      q.columns[i]?.map fun e => e.map fun _ => label := by
    intro i label
    generalize q'.columns = list' at columns ⊢
    generalize q.columns = list at columns ⊢
    induction columns generalizing i with
    | nil => rfl
    | cons first _ ih =>
      cases i with
      | zero => cases first <;> rfl
      | succ i => exact ih i
  refine List.ext_getElem? fun i => ?_
  rw [Query.labels, Query.labels, List.getElem?_mapIdx, List.getElem?_mapIdx, some]

lemma length_columnNames_le (h : q'.NoLarger q) : q'.columnNames.length ≤ q.columnNames.length := by
  have empty : q'.columns.isEmpty = q.columns.isEmpty := by
    rw [Bool.eq_iff_iff, List.isEmpty_iff_length_eq_zero, List.isEmpty_iff_length_eq_zero, h.columns.length_eq]
  have levels : (q'.plan.levels.flatMap LevelSnapshot.labels).length ≤
      (q.plan.levels.flatMap LevelSnapshot.labels).length := by
    rw [List.length_flatMap, List.length_flatMap]
    exact sum_map_le_of_subperm h.plan.levels _
  unfold columnNames selected
  rw [empty, h.labels_eq]
  simp only [List.length_append, List.length_map]
  omega

lemma places_le (h : q'.NoLarger q) : q'.places ≤ q.places := by
  have columns : ((q'.columns.filterMap id).map Expression.places).sum ≤
      ((q.columns.filterMap id).map Expression.places).sum :=
    (List.rel_map (fun _ _ within => within.places) h.values : List.Forall₂ (· ≤ ·) _ _).sum_le_sum
  have predicates : (q'.predicates.map Predicate.places).sum ≤ (q.predicates.map Predicate.places).sum :=
    (List.rel_map (fun _ _ within => within.places) h.predicates : List.Forall₂ (· ≤ ·) _ _).sum_le_sum
  have levels := sum_map_le_of_subperm h.plan.levels fun s => s.labels.length
  have snapshots := sum_map_le_of_subperm h.plan.snapshots SnapshotKey.places
  unfold places
  simp only [foldl_add_eq_sum, List.sum_append, h.plan.ranges]
  omega

lemma isWithinLimits (h : q'.NoLarger q) (few : q.plan.joinCount < maxTables) (within : q.isWithinLimits = true) :
    q'.isWithinLimits = true := by
  unfold Query.isWithinLimits at within ⊢
  simp only [Bool.and_eq_true, decide_eq_true_eq] at within ⊢
  obtain ⟨⟨⟨depth, arity⟩, names⟩, places⟩ := within
  exact ⟨⟨⟨h.depth_le few depth, h.arity_le.trans arity⟩, h.length_columnNames_le.trans names⟩,
    h.places_le.trans places⟩

/-- The database takes a query that is no larger than one that it takes. -/
lemma isTaken (h : q'.NoLarger q) (actorTable : String)
    (taken : (q.plan.isJoinable actorTable && q.isWithinLimits) = true) :
    (q'.plan.isJoinable actorTable && q'.isWithinLimits) = true := by
  rw [Bool.and_eq_true] at taken ⊢
  obtain ⟨joinable, within⟩ := taken
  have few : q.plan.joinCount < maxTables := of_decide_eq_true (Bool.and_eq_true_iff.1 joinable).1
  exact ⟨h.plan.isJoinable joinable, h.isWithinLimits few within⟩

end Query.NoLarger

end ActivityReport
