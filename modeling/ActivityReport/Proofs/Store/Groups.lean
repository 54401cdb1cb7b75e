import ActivityReport.Store.Groups
import Mathlib.Data.List.Perm.Basic
import Mathlib.Tactic.Lemma

/-!
# Groups of an actor

What a look-up of groups tells of one actor. Memberships have one order, so what is listed depends on
which memberships there are and not on how they are held. The chunks of a look-up share no actor: each actor
that is looked up is in one chunk, and what the other chunks bring is of other actors. So an actor has the
same groups in every look-up that asks for it (`Store.groupsOf_fetchGroups`).
-/

namespace ActivityReport

/-! ## Order of memberships -/

namespace Store

variable {s t : Store} {actorId : Int}

/-- Memberships are ordered by actor and group. -/
lemma membershipLe_iff {a b : Int × String} : membershipLe a b = true ↔ a.1 < b.1 ∨ a.1 = b.1 ∧ a.2 ≤ b.2 := by
  simp [membershipLe]

/-- The order of memberships goes on from step to step. -/
lemma membershipLe_trans (a b c : Int × String) (ab : membershipLe a b = true) (bc : membershipLe b c = true) :
    membershipLe a c = true := by
  rw [membershipLe_iff] at *
  rcases ab with ab | ⟨ab, ab'⟩
  · rcases bc with bc | ⟨bc, -⟩
    · exact Or.inl (Int.lt_trans ab bc)
    · exact Or.inl (bc ▸ ab)
  · rcases bc with bc | ⟨bc, bc'⟩
    · exact Or.inl (ab ▸ bc)
    · exact Or.inr ⟨ab.trans bc, String.le_trans ab' bc'⟩

/-- Of two memberships one does not come after the other. -/
lemma membershipLe_total (a b : Int × String) : (membershipLe a b || membershipLe b a) = true := by
  rw [Bool.or_eq_true, membershipLe_iff, membershipLe_iff]
  rcases Int.lt_trichotomy a.1 b.1 with lt | eq | gt
  · exact Or.inl (Or.inl lt)
  · rcases String.le_total a.2 b.2 with le | le
    · exact Or.inl (Or.inr ⟨eq, le⟩)
    · exact Or.inr (Or.inr ⟨eq.symm, le⟩)
  · exact Or.inr (Or.inl gt)

/-- Only a membership itself comes neither before nor after it. -/
lemma membershipLe_antisymm {a b : Int × String} (ab : membershipLe a b = true) (ba : membershipLe b a = true) :
    a = b := by
  rw [membershipLe_iff] at ab ba
  rcases ab with ab | ⟨same, le⟩
  · omega
  rcases ba with ba | ⟨-, ge⟩
  · omega
  exact Prod.ext same (String.le_antisymm le ge)

/-- Memberships in order are one list, however they were held. -/
lemma eq_mergeSort_of_perm {list sorted : List (Int × String)} (inOrder : sorted.Pairwise fun a b => membershipLe a b)
    (perm : sorted.Perm list) : sorted = list.mergeSort membershipLe :=
  List.Perm.eq_of_pairwise (fun _ _ _ _ => membershipLe_antisymm) inOrder
    (List.pairwise_mergeSort membershipLe_trans membershipLe_total _) (perm.trans (List.mergeSort_perm _ _).symm)

/-- Memberships of the same actors are listed alike when there are the same ones. -/
lemma membershipsOf_congr (nodup : s.groups.Nodup) (nodup' : t.groups.Nodup)
    (same : ∀ g, g ∈ s.groups ↔ g ∈ t.groups) (ids : List Int) : s.membershipsOf ids = t.membershipsOf ids := by
  refine eq_mergeSort_of_perm (List.pairwise_mergeSort membershipLe_trans membershipLe_total _) ?_
  exact (List.mergeSort_perm _ _).trans (((List.perm_ext_iff_of_nodup nodup nodup').2 same).filter _)

/-- The groups of an actor, in order. -/
def groupsOf (s : Store) (actorId : Int) : List String := (s.membershipsOf [actorId]).map Prod.snd

/-- Among the memberships of some actors are those of each of them, in order. -/
lemma filter_membershipsOf (ids : List Int) :
    (s.membershipsOf ids).filter (·.1 == actorId) = if actorId ∈ ids then s.membershipsOf [actorId] else [] := by
  have own : (s.groups.filter fun g => ids.contains g.1).filter (·.1 == actorId) =
      if actorId ∈ ids then s.groups.filter fun g => [actorId].contains g.1 else [] := by
    rw [List.filter_filter]
    split
    · refine List.filter_congr fun g _ => ?_
      rw [Bool.eq_iff_iff]
      simp only [Bool.and_eq_true, beq_iff_eq, List.contains_iff_mem, List.mem_singleton]
      exact ⟨And.left, fun same => ⟨same, same ▸ ‹_›⟩⟩
    · rw [List.filter_eq_nil_iff]
      simp only [Bool.and_eq_true, beq_iff_eq, List.contains_iff_mem]
      rintro g - ⟨rfl, listed⟩
      contradiction
  have sorted : ((s.membershipsOf ids).filter (·.1 == actorId)).Pairwise fun a b => membershipLe a b :=
    (List.pairwise_mergeSort membershipLe_trans membershipLe_total _).filter _
  rw [eq_mergeSort_of_perm sorted ((List.mergeSort_perm _ _).filter _), own]
  split
  · rfl
  · exact List.mergeSort_nil

end Store

/-! ## Collected groups -/

namespace GroupMap

/-- A membership adds a group to its actor and to no other one. -/
lemma groupsOf_add (m : GroupMap) (g : Int × String) (actorId : Int) :
    (m.add g).groupsOf actorId = m.groupsOf actorId ++ if g.1 = actorId then [g.2] else [] := by
  induction m with
  | nil => by_cases same : g.1 = actorId <;> simp [add, groupsOf, same]
  | cons entry rest ih =>
    rw [add]
    by_cases found : entry.1 = actorId
    · split
      · by_cases same : g.1 = actorId <;> simp_all [groupsOf]
      · rename_i other
        have apart : g.1 ≠ actorId := fun same => other (found.trans same.symm)
        simp [groupsOf, found, apart]
    · split
      · rename_i same
        have apart : g.1 ≠ actorId := same ▸ found
        simp [groupsOf, found, apart]
      · simpa [groupsOf, found] using ih

/-- The groups of an actor are collected one by one. -/
lemma groupsOf_foldl_add (list : List (Int × String)) (m : GroupMap) (actorId : Int) :
    (list.foldl add m).groupsOf actorId =
      m.groupsOf actorId ++ (list.filter (·.1 == actorId)).map Prod.snd := by
  induction list generalizing m with
  | nil => simp
  | cons g rest ih =>
    rw [List.foldl_cons, ih, groupsOf_add, List.append_assoc]
    by_cases same : g.1 = actorId <;> simp [same]

end GroupMap

/-- Of items without repetition, what one of them brings comes from one chunk. -/
lemma flatMap_chunks {α β : Type} [DecidableEq α] {n : Nat} {list : List α} {a : α} (found : List β)
    (nodup : list.Nodup) :
    ((chunks n list).flatMap fun chunk => if a ∈ chunk then found else []) = if a ∈ list then found else [] := by
  fun_induction chunks n list with
  | case1 => rfl
  | case2 b rest ih =>
    rw [List.nodup_cons] at nodup
    rw [List.flatMap_cons, ih (nodup.2.sublist (List.drop_sublist _ _))]
    have parts : a ∈ rest ↔ a ∈ rest.take n ∨ a ∈ rest.drop n := by
      rw [← List.mem_append, List.take_append_drop]
    by_cases early : a ∈ b :: rest.take n
    · have notLate : a ∉ rest.drop n := by
        intro late
        rcases List.mem_cons.1 early with rfl | early
        · exact nodup.1 (List.mem_of_mem_drop late)
        · have apart := nodup.2
          rw [← List.take_append_drop n rest, List.nodup_append] at apart
          exact apart.2.2 a early a late rfl
      have listed : a ∈ b :: rest := by
        rw [List.mem_cons, parts]
        exact (List.mem_cons.1 early).imp_right Or.inl
      rw [if_pos early, if_neg notLate, if_pos listed, List.append_nil]
    · have same : a ∈ b :: rest ↔ a ∈ rest.drop n := by
        rw [List.mem_cons, parts, ← or_assoc, ← List.mem_cons, or_iff_right early]
      rw [if_neg early, List.nil_append]
      simp only [same]

/-- A look-up tells the groups of each actor that it asks for, and of no other one. -/
lemma Store.groupsOf_fetchGroups_eq (s : Store) (chunk : Nat) (ids : List Int) (actorId : Int) :
    (s.fetchGroups chunk ids).groupsOf actorId = if actorId ∈ ids then s.groupsOf actorId else [] := by
  rw [fetchGroups, GroupMap.groupsOf_foldl_add, List.filter_flatMap]
  simp only [filter_membershipsOf]
  rw [flatMap_chunks _ (nodup_firstSeen ids)]
  simp only [mem_firstSeen]
  split
  · rfl
  · rfl

/-- A look-up tells the groups of each actor that it asks for. -/
theorem Store.groupsOf_fetchGroups {s : Store} {ids : List Int} {actorId : Int} (asked : actorId ∈ ids) (chunk : Nat) :
    (s.fetchGroups chunk ids).groupsOf actorId = s.groupsOf actorId := by
  rw [groupsOf_fetchGroups_eq, if_pos asked]

end ActivityReport
