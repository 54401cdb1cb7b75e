import ActivityReport.Proofs.Store.Groups
import ActivityReport.Proofs.Text.Bytes
import ActivityReport.Proofs.Trace.Success
import ActivityReport.Store.Database
import Mathlib.Data.List.Nodup

/-!
# Look-ups of groups

The map that a look-up of groups comes to. A map is collected membership by membership: no actor comes into it twice,
and none without a group (`GroupMap.IsProper`), so it is known by the groups of each actor. Those are told by the store
and not by the chunks of the look-up, nor by the order in which actors are asked for
(`Database.groups_of_fetchGroupsBy`).
-/

namespace ActivityReport

/-! ## Maps -/

namespace GroupMap

/-- The actors of a map, in the order in which they came into it. -/
def actorIds (m : GroupMap) : List Int := m.map Prod.fst

variable {m : GroupMap} {actorId : Int} {names : List String}

@[simp] lemma actorIds_cons (entry : Int × List String) (rest : GroupMap) :
    actorIds (entry :: rest) = entry.1 :: actorIds rest := rfl

lemma groupsOf_cons (entry : Int × List String) (rest : GroupMap) :
    groupsOf (entry :: rest) actorId = if entry.1 = actorId then entry.2 else rest.groupsOf actorId := by
  by_cases own : entry.1 = actorId <;> simp [groupsOf, own]

lemma groupsOf_eq_nil (h : actorId ∉ m.actorIds) : m.groupsOf actorId = [] := by
  induction m with
  | nil => rfl
  | cons entry rest ih =>
    rw [actorIds_cons, List.mem_cons, not_or] at h
    rw [groupsOf_cons, if_neg (Ne.symm h.1), ih h.2]

/-- A membership brings its actor into a map that does not list it, and no other one. -/
lemma actorIds_add (m : GroupMap) (g : Int × String) :
    (m.add g).actorIds = if g.1 ∈ m.actorIds then m.actorIds else m.actorIds ++ [g.1] := by
  induction m with
  | nil => rfl
  | cons entry rest ih =>
    rw [add]
    by_cases own : entry.1 = g.1
    · rw [if_pos own, actorIds_cons, actorIds_cons, if_pos (own ▸ List.mem_cons_self)]
    · rw [if_neg own, actorIds_cons, actorIds_cons, ih]
      by_cases listed : g.1 ∈ actorIds rest
      · rw [if_pos listed, if_pos (List.mem_cons_of_mem _ listed)]
      · rw [if_neg listed, if_neg (by simp [Ne.symm own, listed]), List.cons_append]

/-- Whether no actor is listed twice, and none without groups. -/
structure IsProper (m : GroupMap) : Prop where
  nodup : m.actorIds.Nodup
  ne_nil : ∀ entry ∈ m, entry.2 ≠ []

lemma ne_nil_of_mem_add (g : Int × String) (h : ∀ entry ∈ m, entry.2 ≠ []) : ∀ entry ∈ m.add g, entry.2 ≠ [] := by
  induction m with
  | nil => simp [add]
  | cons first rest ih =>
    rw [List.forall_mem_cons] at h
    rw [add]
    split
    · exact List.forall_mem_cons.2 ⟨by simp, h.2⟩
    · exact List.forall_mem_cons.2 ⟨h.1, ih h.2⟩

namespace IsProper

lemma nil : IsProper [] := ⟨List.Pairwise.nil, List.forall_mem_nil _⟩

lemma nodup_entries (h : m.IsProper) : m.Nodup := List.Nodup.of_map _ h.nodup

lemma add (h : m.IsProper) (g : Int × String) : (m.add g).IsProper where
  nodup := by
    rw [actorIds_add]
    split
    · exact h.nodup
    · rename_i new
      refine List.nodup_append.2 ⟨h.nodup, List.pairwise_singleton _ _, ?_⟩
      rintro _ listed _ own rfl
      exact new (List.mem_singleton.1 own ▸ listed)
  ne_nil := ne_nil_of_mem_add g h.ne_nil

lemma foldl_add (h : m.IsProper) (list : List (Int × String)) : (list.foldl GroupMap.add m).IsProper := by
  induction list generalizing m with
  | nil => exact h
  | cons g rest ih => exact ih (h.add g)

/-- A proper map is known by the groups of each actor. -/
lemma mem_iff (h : m.IsProper) : (actorId, names) ∈ m ↔ names ≠ [] ∧ names = m.groupsOf actorId := by
  induction m with
  | nil => simp [groupsOf]
  | cons entry rest ih =>
    obtain ⟨id, groups⟩ := entry
    obtain ⟨new, nodup⟩ := List.nodup_cons.1 h.nodup
    obtain ⟨first, others⟩ := List.forall_mem_cons.1 h.ne_nil
    rw [List.mem_cons, Prod.mk.injEq, groupsOf_cons, ih ⟨nodup, others⟩]
    by_cases own : id = actorId
    · rw [if_pos own, groupsOf_eq_nil (own ▸ new)]
      constructor
      · rintro (⟨-, rfl⟩ | ⟨some, none⟩)
        · exact ⟨first, rfl⟩
        · exact absurd none some
      · rintro ⟨-, rfl⟩
        exact Or.inl ⟨own.symm, rfl⟩
    · rw [if_neg own, or_iff_right fun same => own same.1.symm]

end IsProper

end GroupMap

/-! ## Groups in the store -/

namespace Store

/-- Whether some names are the groups of an actor: all of them, each once, in the order of their bytes. -/
structure ListsGroups (s : Store) (actorId : Int) (names : List String) : Prop where
  mem_iff : ∀ name, name ∈ names ↔ (actorId, name) ∈ s.groups
  sorted : names.Pairwise fun a b => Text.bytes a < Text.bytes b

variable {s : Store} {actorId : Int} {names : List String}

lemma mem_membershipsOf_singleton {g : Int × String} : g ∈ s.membershipsOf [actorId] ↔ g ∈ s.groups ∧ g.1 = actorId := by
  rw [membershipsOf, List.mem_mergeSort, List.mem_filter, List.contains_iff_mem, List.mem_singleton]

lemma mem_groupsOf {name : String} : name ∈ s.groupsOf actorId ↔ (actorId, name) ∈ s.groups := by
  simp only [groupsOf, List.mem_map, mem_membershipsOf_singleton]
  constructor
  · rintro ⟨⟨_, _⟩, ⟨held, rfl⟩, rfl⟩
    exact held
  · intro held
    exact ⟨_, ⟨held, rfl⟩, rfl⟩

/-- When no membership is held twice, the groups of an actor are listed once each and in order. -/
lemma listsGroups_groupsOf (unique : s.groups.Nodup) (actorId : Int) : s.ListsGroups actorId (s.groupsOf actorId) where
  mem_iff _ := mem_groupsOf
  sorted := by
    have inOrder : (s.membershipsOf [actorId]).Pairwise fun a b => membershipLe a b :=
      List.pairwise_mergeSort membershipLe_trans membershipLe_total _
    have apart : (s.membershipsOf [actorId]).Nodup := (List.mergeSort_perm _ _).nodup_iff.2 (unique.filter _)
    refine List.pairwise_map.2 ((inOrder.and apart).imp_of_mem ?_)
    rintro ⟨i, a⟩ ⟨j, b⟩ listed listed' ⟨le, ne⟩
    obtain rfl : i = actorId := (mem_membershipsOf_singleton.1 listed).2
    obtain rfl : j = i := (mem_membershipsOf_singleton.1 listed').2
    rcases membershipLe_iff.1 le with less | ⟨-, le⟩
    · exact absurd less (Int.lt_irrefl _)
    · exact Text.bytes_lt_iff.2 (lt_of_le_of_ne le fun same => ne (congrArg _ same))

/-- An actor's groups are listed in one way. -/
lemma ListsGroups.eq {names' : List String} (h : s.ListsGroups actorId names) (h' : s.ListsGroups actorId names') :
    names = names' := by
  have nodup : ∀ {list : List String}, (list.Pairwise fun a b => Text.bytes a < Text.bytes b) → list.Nodup := by
    intro list sorted
    refine sorted.imp ?_
    rintro a _ less rfl
    exact List.lt_irrefl _ less
  have perm : names.Perm names' := (List.perm_ext_iff_of_nodup (nodup h.sorted) (nodup h'.sorted)).2 fun name =>
    (h.mem_iff name).trans (h'.mem_iff name).symm
  exact perm.eq_of_pairwise (fun _ _ _ _ less greater => absurd greater (List.lt_asymm less)) h.sorted h'.sorted

lemma isProper_fetchGroups (s : Store) (chunk : Nat) (ids : List Int) : (s.fetchGroups chunk ids).IsProper :=
  GroupMap.IsProper.nil.foldl_add _

/-- A look-up lists the groups of the actors that are asked for and have some. -/
lemma mem_fetchGroups_iff {chunk : Nat} {ids : List Int} :
    (actorId, names) ∈ s.fetchGroups chunk ids ↔ actorId ∈ ids ∧ names ≠ [] ∧ names = s.groupsOf actorId := by
  rw [(s.isProper_fetchGroups chunk ids).mem_iff, groupsOf_fetchGroups_eq]
  split
  · rename_i asked
    rw [and_iff_right asked]
  · rename_i notAsked
    exact ⟨fun listed => absurd listed.2 listed.1, fun listed => absurd listed.1 notAsked⟩

end Store

/-! ## Groups in the database -/

namespace Database

variable {db : Database} {n : Naming} {s : Store} {ids : List Int} {chunk : Int}

/-- A look-up of words for one actor or more at a time comes to what the store tells. -/
lemma fetchGroupsBy_yields (found : db.tablesOf n = .ok s) (words : ∀ id ∈ ids, Number.fitsWord id = true)
    (positive : 1 ≤ chunk) : (db.fetchGroupsBy n chunk ids).Yields (s.fetchGroups chunk.toNat ids) := by
  rw [fetchGroupsBy, if_neg (by omega), if_neg (by omega), fetchGroups]
  split
  · rename_i nobody
    obtain rfl := List.isEmpty_iff.1 nobody
    have none : s.fetchGroups chunk.toNat [] = [] := by
      rw [Store.fetchGroups, firstSeen, chunks]
      rfl
    rw [none]
    exact (Traced.Yields.logAll _).bind (.pure _)
  · have fits : checkIntegers ids = .ok () := if_pos (List.all_eq_true.2 words)
    exact (Traced.Yields.result found).bind ((Traced.Yields.result fits).bind ((Traced.Yields.logAll _).bind (.pure _)))

end Database

/-- Three actors with groups, one of them with four. -/
def Store.ofGroups : Store where
  actors := []
  counters := []
  groups := [(4, "sysop"), (2, "zz"), (1, "sysop"), (2, "aa"), (4, "bot"), (2, "Zz"), (2, "Áa")]
  templates := []

end ActivityReport
