import ActivityReport.Proofs.Config.Reach
import ActivityReport.Proofs.Payload.Written
import ActivityReport.Proofs.Report.Conditions
import ActivityReport.Proofs.Report.Modes
import ActivityReport.Pyramid.Population
import Mathlib.Data.Set.Card

/-!
# Populations and members

The members of a group of a pyramid are the actors of the store that meet its conditions at a day, without a first day
(`Service.members`). Counting the actors of each group in turn, with those of the group before it in mind, comes to the
number of its members and of those that are members of the group before as well (`Service.populated_of_populations`, by
induction on the groups). All conditions of a group must be met, so that further conditions leave fewer members.
-/

namespace ActivityReport

open Traced (ComesTo comesTo_pure comesTo_of_run)

/-! ## Who meets all conditions -/

/-- The ladder in the file of a wiki, if there is one that can be read. -/
def Resources.ladderOf? (c : Resources) (wikiId : String) : Option Ladder :=
  ((ConfigFile.serviceAward c wikiId).load Payload.readLadderFile c).toOption.join

/-- A request for levels that brings no ladder gets the one of its wiki. -/
lemma Resources.eq_ladderOf?_of_resolveLadder {c : Resources} {r : Request} {ladder : Option Ladder}
    (own : r.ladder = none) (needed : r.needsLevels = true) (h : (c.resolveLadder r).ComesTo ladder) :
    ladder = c.ladderOf? r.wikiId := by
  obtain ⟨clock, h⟩ := h
  rw [run_resolveLadder, if_pos ⟨own, needed⟩] at h
  rw [ladderOf?, h]
  rfl

/-- The ladder counts only for conditions on levels. -/
lemma Store.meets_congr_ladder {s : Store} {w : Window} {ladder ladder' : Option Ladder} {a : Actor} {c : Condition}
    (same : c.isLevel = true → ladder' = ladder) : s.Meets w ladder' a c ↔ s.Meets w ladder a c := by
  cases c with
  | level changed ids => rw [same rfl]
  | _ => exact Iff.rfl

/-- Without columns the actors that are kept are those that meet all conditions. -/
lemma Query.mem_keptIds_iff_meets {s : Store} (keyed : s.WellKeyed) {n : Naming} {r : Request} {q : Query}
    {ladder : Option Ladder} (built : Query.ofRequest r = .ok q) (noColumns : r.columns = [])
    (countsNoLogs : ∀ c ∈ r.conditions, ¬ c.CountsLogs)
    (levelled : ∀ j ∈ q.matching s n.actorTable, ∃ row,
      (RawRow.ofJoined q j).source.withLevels ladder q.plan.levels = .ok row) {id : Int} :
    id ∈ q.keptIds s n.actorTable r ladder ↔
      ∃ a ∈ s.actors, a.id = id ∧ ∀ c ∈ r.conditions, s.Meets r.window ladder a c := by
  have planned : JoinPlan.ofRequest r = .ok q.plan := Query.ofRequest_plan built
  rw [Query.mem_keptIds_iff keyed built countsNoLogs levelled]
  refine exists_congr fun a => and_congr_right fun listed => and_congr_right fun _ => ⟨fun kept => kept.2.2, fun meets => ?_⟩
  -- there are no filters of columns to pass, and who meets all conditions has all rows that the joins ask for
  refine ⟨Store.keeps_of_meets planned noColumns meets, ?_, meets⟩
  rw [noColumns]
  exact List.forall_mem_nil _

/-! ## Members -/

namespace Service

variable {x : Service} {s : Store} {wikiId : String} {day : Date} {requirements : Requirement}

/-- The actors of a store that meet some conditions at a day. -/
def members (x : Service) (s : Store) (wikiId : String) (day : Date) (requirements : Requirement) : Set Int :=
  {id | ∃ a ∈ s.actors, a.id = id ∧
    ∀ c ∈ requirements, s.Meets ⟨none, day⟩ (x.resources.ladderOf? wikiId) a c}

lemma finite_members : (x.members s wikiId day requirements).Finite := by
  refine (s.actors.map Actor.id).finite_toSet.subset ?_
  rintro id ⟨a, listed, rfl, -⟩
  exact List.mem_map_of_mem listed

/-- Further conditions add no members. -/
lemma members_anti {further : Requirement} (h : requirements ⊆ further) :
    x.members s wikiId day further ⊆ x.members s wikiId day requirements := by
  rintro id ⟨a, listed, same, meets⟩
  exact ⟨a, listed, same, fun c asked => meets c (h asked)⟩

/-- The actors of an answer to some conditions are their members, each once. -/
lemma actors_of_compile (stored : x.database.store = some s) (keyed : s.WellKeyed)
    (countsNoLogs : ∀ c ∈ requirements, ¬ c.CountsLogs) {answer : Answer}
    (h : (x.compile none (Request.ofConditions wikiId requirements day)).ComesTo answer) :
    answer.actors.Nodup ∧ ∀ id, id ∈ answer.actors ↔ id ∈ x.members s wikiId day requirements := by
  obtain ⟨clock, h⟩ := h
  obtain ⟨ladder, flagless, q, resolved, -, built, answered⟩ := parts_of_compile h
  obtain ⟨listing, levelled⟩ := actorIds_of_answer stored (Query.ofRequest_plan built) answered
  have listed := listing.perm (if_pos rfl)
  have actors : answer.actors = firstSeen answer.actorIds := by cases answer <;> rfl
  refine ⟨actors ▸ nodup_firstSeen _, fun id => ?_⟩
  rw [actors, mem_firstSeen, listed.mem_iff]
  -- the ladder of the wiki is read only for conditions on levels, and matters only for them
  refine (Query.mem_keptIds_iff_meets keyed built rfl countsNoLogs levelled).trans ?_
  refine exists_congr fun a => and_congr_right fun _ => and_congr_right fun _ =>
    forall_congr' fun c => forall_congr' fun asked => Store.meets_congr_ladder fun isLevel => ?_
  have needed : (Request.ofConditions wikiId requirements day).needsLevels = true :=
    List.any_eq_true.2 ⟨c, asked, isLevel⟩
  exact (Resources.eq_ladderOf?_of_resolveLadder rfl needed resolved :)

end Service

/-- There are as many as a list has that lists each once. -/
lemma ncard_eq_length {α : Type} [DecidableEq α] {set : Set α} {list : List α} (nodup : list.Nodup)
    (same : ∀ a, a ∈ list ↔ a ∈ set) : set.ncard = list.length := by
  have listed : set = list.toFinset := Set.ext fun a => (same a).symm.trans (by simp)
  rw [listed, Set.ncard_coe_finset, List.toFinset_card_of_nodup nodup]

/-! ## Populations -/

/-- Entries on some groups in turn: each has the number of the members of its group and of those among them that are
members of the group before as well. -/
inductive Populated (members : Requirement → Set Int) :
    Set Int → List PyramidGroup → List GroupPopulation → Prop
  | nil {previous : Set Int} : Populated members previous [] []
  | cons {previous : Set Int} {g : PyramidGroup} {groups : List PyramidGroup} {entries : List GroupPopulation}
      (rest : Populated members (members g.requirements) groups entries) :
      Populated members previous (g :: groups)
        (⟨g.name, (members g.requirements).ncard, (members g.requirements ∩ previous).ncard⟩ :: entries)

namespace Populated

variable {members : Requirement → Set Int} {previous : Set Int} {groups : List PyramidGroup}
  {entries : List GroupPopulation}

lemma length_eq (h : Populated members previous groups entries) : entries.length = groups.length := by
  induction h with
  | nil => rfl
  | cons _ ih => exact congrArg (· + 1) ih

lemma getElem?_zero (h : Populated members previous groups entries) {g : PyramidGroup} (first : groups[0]? = some g) :
    entries[0]? = some ⟨g.name, (members g.requirements).ncard, (members g.requirements ∩ previous).ncard⟩ := by
  cases h with
  | nil => cases first
  | cons rest =>
    cases first
    rfl

lemma getElem?_succ (h : Populated members previous groups entries) {i : Nat} {before g : PyramidGroup}
    (place : groups[i]? = some before) (next : groups[i + 1]? = some g) : entries[i + 1]? =
      some ⟨g.name, (members g.requirements).ncard, (members g.requirements ∩ members before.requirements).ncard⟩ := by
  induction h generalizing i with
  | nil => cases next
  | cons rest ih =>
    rw [List.getElem?_cons_succ] at next ⊢
    cases i with
    | zero =>
      cases place
      exact rest.getElem?_zero next
    | succ i => exact ih place next

lemma population_eq (h : Populated members previous groups entries) {i : Nat} {g : PyramidGroup}
    (place : groups[i]? = some g) :
    ∃ entry, entries[i]? = some entry ∧ entry.population = (members g.requirements).ncard := by
  cases i with
  | zero => exact ⟨_, h.getElem?_zero place, rfl⟩
  | succ i =>
    obtain ⟨inside, -⟩ := List.getElem?_eq_some_iff.1 place
    have there : groups[i]? = some groups[i] := List.getElem?_eq_getElem (Nat.lt_of_succ_lt inside)
    exact ⟨_, h.getElem?_succ there place, rfl⟩

end Populated

namespace Service

variable {x : Service} {s : Store} {wikiId : String} {day : Date}

/-- Groups whose conditions count no log events are populated by their members. -/
lemma populated_of_populations (stored : x.database.store = some s) (keyed : s.WellKeyed) {pyramidId : String}
    {groups : List PyramidGroup} (countsNoLogs : ∀ g ∈ groups, ∀ c ∈ g.requirements, ¬ c.CountsLogs) {place : Nat}
    {previous : List Int} {before : Set Int} (known : ∀ id, id ∈ previous ↔ id ∈ before)
    {entries : List GroupPopulation}
    (h : (x.populations wikiId pyramidId day place previous groups).ComesTo entries) :
    Populated (x.members s wikiId day) before groups entries := by
  induction groups generalizing place previous before entries with
  | nil =>
    obtain rfl := comesTo_pure.1 h
    exact .nil
  | cons g groups ih =>
    obtain ⟨_, -, h⟩ := h.bind
    obtain ⟨answer, compiled, h⟩ := h.bind
    obtain ⟨rest, counted, h⟩ := h.bind
    obtain rfl := comesTo_pure.1 h
    obtain ⟨nodup, same⟩ := actors_of_compile stored keyed (countsNoLogs g List.mem_cons_self) compiled
    have both : ∀ id, id ∈ answer.actors.filter previous.contains ↔
        id ∈ x.members s wikiId day g.requirements ∩ before := by
      intro id
      rw [List.mem_filter, List.contains_iff_mem, same, known, Set.mem_inter_iff]
    rw [← ncard_eq_length nodup same, ← ncard_eq_length (nodup.filter _) both]
    -- the members that were counted are the ones that the next group is compared with
    exact .cons (ih (fun g' listed => countsNoLogs g' (List.mem_cons_of_mem _ listed)) same counted)

/-- The populations of a pyramid, read from a payload and counted at a day in a store without double keys. There is one
entry for each group, in their order, with the number of the actors that are its members. The first entry matches
nothing, every other one has the number of actors that are members of the group before as well. Where a group has all
conditions of the group before it, these are all of its members, and they are no more than those of the group before. -/
theorem populations_of_pyramid (stored : x.database.store = some s) (keyed : s.WellKeyed) {json : Json} {p : Pyramid}
    (parsed : Payload.readPyramid json = .ok p) {clock : List Float} {entries : List GroupPopulation}
    (h : ((x.pyramid wikiId p day).run clock).result = .ok entries) :
    entries.length = p.groups.length ∧
    (∀ g, p.groups[0]? = some g → entries[0]? = some ⟨g.name, (x.members s wikiId day g.requirements).ncard, 0⟩) ∧
    ∀ (i : Nat) (before g : PyramidGroup), p.groups[i]? = some before → p.groups[i + 1]? = some g →
      ∃ entry earlier : GroupPopulation, entries[i + 1]? = some entry ∧ entries[i]? = some earlier ∧ entry.title = g.name ∧
        entry.population = (x.members s wikiId day g.requirements).ncard ∧
        entry.matchingWithPrevious =
          (x.members s wikiId day g.requirements ∩ x.members s wikiId day before.requirements).ncard ∧
        (before.requirements ⊆ g.requirements →
          entry.matchingWithPrevious = entry.population ∧ entry.population ≤ earlier.population) := by
  have countsNoLogs : ∀ g ∈ p.groups, ∀ c ∈ g.requirements, ¬ c.CountsLogs := fun g listed c asked =>
    c.not_countsLogs ((Payload.isOffered_of_readPyramid parsed g listed).criterion_mem asked)
  have populated : Populated (x.members s wikiId day) ∅ p.groups entries :=
    populated_of_populations stored keyed countsNoLogs (by simp) (comesTo_of_run h)
  refine ⟨populated.length_eq, fun g first => ?_, fun i before g place next => ?_⟩
  · rw [populated.getElem?_zero first, Set.inter_empty, Set.ncard_empty]
  · obtain ⟨earlier, there, population⟩ := populated.population_eq place
    refine ⟨_, earlier, populated.getElem?_succ place next, there, rfl, rfl, rfl, fun nested => ?_⟩
    have fewer : x.members s wikiId day g.requirements ⊆ x.members s wikiId day before.requirements :=
      members_anti nested
    refine ⟨by rw [Set.inter_eq_left.2 fewer], ?_⟩
    rw [population]
    exact Set.ncard_le_ncard fewer finite_members

end Service

/-! ### Some editors -/

namespace PyramidGroup

/-- The actors with four edits at most. -/
def few : PyramidGroup := ⟨"Few", [.threshold ⟨.edits, .atMost, .whole, 4, none, none⟩]⟩

/-- Those of them that have an edit. -/
def active : PyramidGroup :=
  ⟨"Active", [.threshold ⟨.edits, .atLeast, .whole, 1, none, none⟩, .threshold ⟨.edits, .atMost, .whole, 4, none, none⟩]⟩

/-- The actors with more edits. -/
def many : PyramidGroup := ⟨"Many", [.threshold ⟨.edits, .atLeast, .whole, 5, none, none⟩]⟩

end PyramidGroup

/-- A payload of a pyramid of these groups. -/
def Json.ofEditors : Json :=
  .object [("id", .text "p"), ("name", .text "Editors"), ("groups", .list [
    .object [("name", .text "Few"), ("requirements", .object [("totalEditsAtMost", .int 4)])],
    .object [("name", .text "Active"), ("requirements",
      .object [("totalEditsAtLeast", .int 1), ("totalEditsAtMost", .int 4)])],
    .object [("name", .text "Many"), ("requirements", .object [("totalEditsAtLeast", .int 5)])]])]

open PyramidGroup in
/-- In the small store each of these groups has one member, who is a member of the group before only for the second. -/
theorem Service.populations_of_small :
    ∃ p entries, Payload.readPyramid Json.ofEditors = .ok p ∧ p.groups = [few, active, many] ∧
      Store.small.WellKeyed ∧ ((small.pyramid "w" p Date.juneFifth).run []).result = .ok entries ∧
      entries = [⟨"Few", 1, 0⟩, ⟨"Active", 1, 1⟩, ⟨"Many", 1, 0⟩] ∧ few.requirements ⊆ active.requirements ∧
      (small.members Store.small "w" Date.juneFifth active.requirements ∩
        small.members Store.small "w" Date.juneFifth few.requirements).ncard = 1 ∧
      (small.members Store.small "w" Date.juneFifth many.requirements ∩
        small.members Store.small "w" Date.juneFifth active.requirements).ncard = 0 := by
  have parsed : Payload.readPyramid Json.ofEditors = .ok ⟨"p", "Editors", [few, active, many]⟩ :=
    Checked.value?_eq_some_iff.1 (by decide +kernel)
  have succeeds : ((small.pyramid "w" ⟨"p", "Editors", [few, active, many]⟩ Date.juneFifth).run []).result.toOption.any
      (· == [⟨"Few", 1, 0⟩, ⟨"Active", 1, 1⟩, ⟨"Many", 1, 0⟩]) = true := by decide +kernel
  obtain ⟨entries, counted, made⟩ := exists_of_any succeeds
  obtain rfl := eq_of_beq made
  obtain ⟨-, -, others⟩ := populations_of_pyramid rfl Store.wellKeyed_small parsed counted
  obtain ⟨second, -, place, -, -, -, both, -⟩ := others 0 few active rfl rfl
  obtain ⟨third, -, place', -, -, -, neither, -⟩ := others 1 active many rfl rfl
  cases place
  cases place'
  exact ⟨_, _, parsed, rfl, Store.wellKeyed_small, counted, rfl, by decide, both.symm, neither.symm⟩

end ActivityReport
