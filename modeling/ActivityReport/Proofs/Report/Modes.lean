import ActivityReport.Proofs.Query.Fewer
import ActivityReport.Proofs.Report.Comparison
import ActivityReport.Proofs.Report.LevelColumns
import ActivityReport.Proofs.Report.Measured
import ActivityReport.Proofs.Trace.Success

/-!
# Reports and lists of actors

A request without columns is answered with the actors alone, on a way of its own through the query and the conditions
on levels. A report lists none but these actors, each once; where nothing in its columns drops rows and no number of
rows is set, it lists all of them (`Service.modes_of_compile`).
-/

namespace ActivityReport

open Number (fitsWord)
open Traced (ComesTo IsSteady Yields)

/-! ## The configuration -/

namespace Resources

variable {c : Resources} {r : Request}

/-- Files are read without a look at the clock. -/
lemma isSteady_contents? (c : Resources) (f : ConfigFile) : (c.contents? f).IsSteady := .result _

lemma isSteady_resolveLadder (c : Resources) (r : Request) : (c.resolveLadder r).IsSteady := by
  unfold resolveLadder
  split
  · exact .pure _
  split
  · exact .pure _
  refine IsSteady.bind ?_ fun ladder => ?_
  · refine (isSteady_contents? c _).bind fun bytes => ?_
    cases bytes with
    | none => exact (IsSteady.logAll _).bind fun _ => .pure _
    | some bytes => exact (IsSteady.result _).bind fun _ => (IsSteady.logAll _).bind fun _ => .pure _
  · cases ladder with
    | none => exact (IsSteady.logAll _).bind fun _ => .pure _
    | some ladder => exact .pure _

lemma isSteady_resolveFlaglessBots (c : Resources) (r : Request) : (c.resolveFlaglessBots r).IsSteady := by
  unfold resolveFlaglessBots
  split
  · exact .pure _
  refine (isSteady_contents? c _).bind fun bytes => ?_
  split
  · exact (IsSteady.logAll _).bind fun _ => .pure _
  refine IsSteady.bind ?_ fun wiki => ?_
  · refine IsSteady.bind ?_ fun _ => .pure _
    refine (isSteady_contents? c _).bind fun bytes => ?_
    cases bytes with
    | none => exact IsSteady.result _
    | some bytes => exact (IsSteady.result _).bind fun _ => (IsSteady.logAll _).bind fun _ => .pure _
  · cases wiki with
    | none => exact (IsSteady.logAll _).bind fun _ => .pure _
    | some wiki => exact .pure _

/-- Bots that are given or found are so without a look at the clock. -/
lemma isSteady_bots (c : Resources) (r : Request) (bots : Option (List String)) :
    (bots.elim (c.resolveFlaglessBots r) pure).IsSteady := by
  cases bots with
  | none => exact isSteady_resolveFlaglessBots c r
  | some list => exact .pure _

/-- Without columns the same ladder is found when there are conditions on levels, and otherwise some ladder or none. -/
lemma resolveLadder_withoutColumns {ladder : Option Ladder} (h : (c.resolveLadder r).ComesTo ladder) :
    ∃ ladder', (c.resolveLadder r.withoutColumns).Yields ladder' ∧ (r.requiresLevels = true → ladder' = ladder) := by
  by_cases required : r.requiresLevels = true
  · have same : c.resolveLadder r.withoutColumns = c.resolveLadder r := by
      have needs : r.needsLevels = true := Bool.or_eq_true_iff.2 (Or.inr required)
      have needs' : r.withoutColumns.needsLevels = true := required
      unfold resolveLadder
      rw [needs, needs']
      rfl
    rw [same]
    exact ⟨ladder, isSteady_resolveLadder c r ladder h, fun _ => rfl⟩
  · have needs' : r.withoutColumns.needsLevels = false := Bool.eq_false_iff.2 required
    have own : c.resolveLadder r.withoutColumns = pure r.ladder := by
      unfold resolveLadder
      rw [needs', show r.withoutColumns.ladder = r.ladder from rfl]
      cases r.ladder <;> rfl
    rw [own]
    exact ⟨r.ladder, .pure _, fun own => absurd own required⟩

end Resources

/-! ## The answer without columns -/

namespace Layout

variable {l : Layout} {r : Request} {raw : List SourceRow} {rows : List LevelledRow}

/-- Rows get their levels together when each gets its own. -/
lemma exists_withLevels {rows : List RawRow} (h : ∀ row ∈ rows, ∃ own, row.source.withLevels l.ladder l.levels = .ok own) :
    ∃ all, l.withLevels (rows.map RawRow.source) = .ok all := by
  refine exists_mapM_eq_ok fun raw listed => ?_
  obtain ⟨row, own, rfl⟩ := List.mem_map.1 listed
  exact h row own

/-- The actors of the rows that are kept are found without a failure. -/
lemma actorIds_yields (h : l.withLevels raw = .ok rows) :
    (l.actorIds r raw).Yields ((rows.filter r.keepsLevels).map (·.raw.id)) :=
  (levelled_yields h).bind (.pure _)

end Layout

namespace Service

variable {x : Service} {s : Store} {r : Request} {q : Query} {ladder : Option Ladder} {flagless : List String}

/-- Where an answer comes from: the ladder, the bots, the query, and what is answered to it. -/
lemma parts_of_compile {bots : Option (List String)} {clock : List Float} {answer : Answer}
    (h : ((x.compile bots r).run clock).result = .ok answer) :
    ∃ ladder flagless q, (x.resources.resolveLadder r).ComesTo ladder ∧
      (bots.elim (x.resources.resolveFlaglessBots r) pure).ComesTo flagless ∧ Query.ofRequest r = .ok q ∧
        (x.answer r q ladder flagless).ComesTo answer := by
  rw [compile_eq_work] at h
  obtain ⟨ladder, resolved, h⟩ := Traced.run_bind_eq_ok.1 h
  obtain ⟨flagless, known, h⟩ := Traced.run_bind_eq_ok.1 h
  rw [run_work] at h
  obtain ⟨q, built, answered⟩ := bind_eq_ok.1 h
  exact ⟨ladder, flagless, q, ⟨_, resolved⟩, ⟨_, known⟩, mapError_eq_ok.1 built, ⟨_, mapError_eq_ok.1 answered⟩⟩

/-- A query that is answered is run by the database. -/
lemma executed_of_answer {answer : Answer} (h : (x.answer r q ladder flagless).ComesTo answer) :
    ∃ rows, x.database.execute (x.settings.naming r.wikiId) q = .ok rows := by
  obtain ⟨_, executed, -⟩ := h.bind
  obtain ⟨_, -, executed⟩ := executed.stage.bind
  obtain ⟨rows, found, -⟩ := executed.bind
  exact ⟨rows, Traced.comesTo_result.1 found⟩

/-- A query without columns that the database runs is answered when its rows get their levels. -/
lemma answer_yields {rows : List RawRow} (columns : r.columns = [])
    (executed : x.database.execute (x.settings.naming r.wikiId) q = .ok rows)
    (levelled : ∀ row ∈ rows, ∃ own, row.source.withLevels ladder q.plan.levels = .ok own) :
    ∃ ids, (x.answer r q ladder flagless).Yields (.ids ids) := by
  obtain ⟨all, each⟩ := Layout.exists_withLevels (l := layout r q ladder) levelled
  have found : ∃ ids, (x.execute r q (layout r q ladder)).Yields (.inr ids) := by
    unfold execute
    by_cases plain : (r.columns.isEmpty && (layout r q ladder).levels.isEmpty) = true
    · refine ⟨rows.map RawRow.id, (Yields.logAll _).bind ((Yields.result executed).bind ?_)⟩
      rw [if_pos plain]
      exact (Yields.logAll _).bind (.pure _)
    · refine ⟨((all.filter r.keepsLevels).map (·.raw.id)).filterMap Cell.int?,
        (Yields.logAll _).bind ((Yields.result executed).bind ?_)⟩
      rw [if_neg plain]
      refine (Yields.logAll _).bind ?_
      rw [if_pos (List.isEmpty_iff.2 columns)]
      exact (Layout.actorIds_yields each).bind (.pure _)
  obtain ⟨ids, found⟩ := found
  exact ⟨ids, found.stage.bind (.pure _)⟩

/-- A request is answered when its ladder and the bots are found and its query is made and answered. -/
lemma compile_yields {bots : Option (List String)} {answer : Answer} (resolved : (x.resources.resolveLadder r).Yields ladder)
    (known : (bots.elim (x.resources.resolveFlaglessBots r) pure).Yields flagless) (built : Query.ofRequest r = .ok q)
    (answered : (x.answer r q ladder flagless).Yields answer) : (x.compile bots r).Yields answer := by
  rw [compile_eq_work]
  refine resolved.bind (known.bind fun clock => ?_)
  rw [run_work, built]
  show Except.mapError _ _ = _
  rw [answered]
  rfl

end Service

/-! ## Who is kept -/

namespace Query

variable {s : Store} {n : Naming} {r : Request} {q : Query} {ladder : Option Ladder}

/-- An actor is kept whose row matches and whose levels meet the conditions. -/
lemma mem_keptIds (keyed : s.WellKeyed) {id : Int} : id ∈ q.keptIds s n.actorTable r ladder ↔
    ∃ a : Actor, a.id = id ∧ s.joinedRow n.actorTable q.plan a ∈ q.matching s n.actorTable ∧
      (s.joinedRow n.actorTable q.plan a).keepsLevels r q ladder = true := by
  unfold keptIds
  rw [List.mem_map]
  constructor
  · rintro ⟨j, kept, rfl⟩
    obtain ⟨matched, keeps⟩ := List.mem_filter.1 kept
    have own := (keyed.eq_joinedRow_of_mem (mem_matching.1 matched).1).1
    exact ⟨j.actor, rfl, own ▸ matched, own ▸ keeps⟩
  · rintro ⟨a, rfl, matched, keeps⟩
    exact ⟨_, List.mem_filter.2 ⟨matched, keeps⟩, rfl⟩

/-- No actor is kept twice. -/
lemma nodup_keptIds (keyed : s.WellKeyed) : (q.keptIds s n.actorTable r ladder).Nodup := by
  have ascending : (q.keptIds s n.actorTable r ladder).Pairwise (· < ·) :=
    List.pairwise_map.2 ((pairwise_matching keyed).sublist List.filter_sublist)
  exact ascending.imp fun less => less.ne

end Query

/-- Conditions that are not on levels ask for nothing in the level columns. -/
lemma Condition.isShown_of_not_requiresLevels {r : Request} (h : r.requiresLevels = false) {c : Condition}
    (asked : c ∈ r.conditions) (change : LevelChange) : c.IsShown change := by
  have notLevel := List.any_eq_false.1 h c asked
  cases c with
  | level => exact absurd rfl notLevel
  | _ => trivial

namespace Service

variable {x : Service} {s : Store} {r : Request} {q q' : Query} {ladder ladder' : Option Ladder} {a : Actor}

/-- An actor who matches both queries is kept for its levels by both, or by neither. -/
lemma keepsLevels_withoutColumns (keyed : s.WellKeyed) {n : Naming} (planned : JoinPlan.ofRequest r = .ok q.plan)
    (planned' : JoinPlan.ofRequest r.withoutColumns = .ok q'.plan) (same : r.requiresLevels = true → ladder' = ladder)
    {row row' : LevelledRow} (found : s.joinedRow n.actorTable q.plan a ∈ s.joined n.actorTable q.plan)
    (found' : s.joinedRow n.actorTable q'.plan a ∈ s.joined n.actorTable q'.plan)
    (own : (RawRow.ofJoined q (s.joinedRow n.actorTable q.plan a)).source.withLevels ladder q.plan.levels = .ok row)
    (own' : (RawRow.ofJoined q' (s.joinedRow n.actorTable q'.plan a)).source.withLevels ladder' q'.plan.levels =
      .ok row') :
    (s.joinedRow n.actorTable q'.plan a).keepsLevels r.withoutColumns q' ladder' =
      (s.joinedRow n.actorTable q.plan a).keepsLevels r q ladder := by
  rw [Bool.eq_iff_iff, keepsLevels_iff_isShown keyed planned found own,
    keepsLevels_iff_isShown keyed planned' found' own']
  refine forall_congr' fun c => forall_congr' fun asked => ?_
  by_cases required : r.requiresLevels = true
  · rw [same required]
    rfl
  · have shown := Condition.isShown_of_not_requiresLevels (Bool.eq_false_iff.2 required) asked
    exact ⟨fun _ => shown _, fun _ => shown _⟩

/-- A report and the list of actors that the same request without columns is answered with, from a store without double
keys whose numbers are words. If the report can be made, so can the list, at any time. The report lists each of its actors
once, and none that is not in the list. It lists all of them when it has no last number, no column drops rows without a
positive value, and no column plans the end of an actor's whole activity or the range of an activity; the columns of
the kinds that are told by `ColumnType.keepsActors` plan neither. Conditions on levels are met in both alike. -/
theorem modes_of_compile (stored : x.database.store = some s) (keyed : s.WellKeyed)
    (fits : ∀ n ∈ s.integers, fitsWord n = true) {bots : Option (List String)} {clock : List Float} {answer : Answer}
    (h : ((x.compile bots r).run clock).result = .ok answer) :
    ∃ ids, (∀ clock', ((x.compile bots r.withoutColumns).run clock').result = .ok (.ids ids)) ∧
      answer.actorIds.Nodup ∧ answer.actorIds ⊆ ids ∧
      (r.itemCount = none ∨ r.itemCount = some 0 → (∀ c ∈ r.columns, c.moreThanZero = false) →
        (∀ c ∈ r.columns, c.type.keepsActors = true ∨ c.KeepsActors r.window) → answer.actorIds.Perm ids) := by
  obtain ⟨ladder, flagless, q, resolved, known, built, answered⟩ := parts_of_compile h
  have planned : JoinPlan.ofRequest r = .ok q.plan := Query.ofRequest_plan built
  obtain ⟨ladder', resolved', sameLadder⟩ := Resources.resolveLadder_withoutColumns resolved
  obtain ⟨q', built', part, own, keys, whole⟩ := Query.ofRequest_withoutColumns built
  have planned' : JoinPlan.ofRequest r.withoutColumns = .ok q'.plan := Query.ofRequest_plan built'
  -- the list can be made
  obtain ⟨rows, executed⟩ := executed_of_answer answered
  have levels : ∀ j ∈ q'.matching s (x.settings.naming r.wikiId).actorTable, ∃ row,
      (RawRow.ofJoined q' j).source.withLevels ladder' q'.plan.levels = .ok row :=
    fun j matched => keyed.exists_withLevels fits (Query.mem_matching.1 matched).1 keys
  obtain ⟨ids, answered'⟩ := answer_yields (r := r.withoutColumns) rfl
    (part.execute stored executed) fun row listed => by
      obtain ⟨j, matched, rfl⟩ := List.mem_map.1 listed
      exact levels j matched
  have compiled : (x.compile bots r.withoutColumns).Yields (.ids ids) :=
    compile_yields resolved' (Resources.isSteady_bots _ r bots _ known) built' answered'
  -- both have the actors that are kept
  obtain ⟨listing, levels₀⟩ := actorIds_of_answer stored planned answered
  obtain ⟨listing', -⟩ := actorIds_of_answer stored planned' ⟨[], answered' []⟩
  have all : ids.Perm (q'.keptIds s (x.settings.naming r.wikiId).actorTable r.withoutColumns ladder') :=
    listing'.perm (if_pos rfl)
  have alike : ∀ a, s.joinedRow (x.settings.naming r.wikiId).actorTable q.plan a ∈
        q.matching s (x.settings.naming r.wikiId).actorTable →
      s.joinedRow (x.settings.naming r.wikiId).actorTable q'.plan a ∈
        q'.matching s (x.settings.naming r.wikiId).actorTable →
      (s.joinedRow (x.settings.naming r.wikiId).actorTable q'.plan a).keepsLevels r.withoutColumns q' ladder' =
        (s.joinedRow (x.settings.naming r.wikiId).actorTable q.plan a).keepsLevels r q ladder := by
    intro a matched matched'
    obtain ⟨row, own⟩ := levels₀ _ matched
    obtain ⟨row', own'⟩ := levels _ matched'
    exact keepsLevels_withoutColumns keyed planned planned' sameLadder (Query.mem_matching.1 matched).1
      (Query.mem_matching.1 matched').1 own own'
  have fewer : q.keptIds s (x.settings.naming r.wikiId).actorTable r ladder ⊆
      q'.keptIds s (x.settings.naming r.wikiId).actorTable r.withoutColumns ladder' := by
    intro id kept
    obtain ⟨a, rfl, matched, keeps⟩ := (Query.mem_keptIds keyed).1 kept
    have matched' := keyed.matching_of_isPart part own matched
    exact (Query.mem_keptIds keyed).2 ⟨a, rfl, matched', (alike a matched matched').trans keeps⟩
  refine ⟨ids, compiled, listing.nodup (Query.nodup_keptIds keyed), fun id found => ?_, fun noLimit plain keeping => ?_⟩
  · exact all.mem_iff.2 (fewer (listing.subset found))
  · have noEnd : (if r.columns = [] then none else r.itemCount.filter (0 < ·)) = none := by
      rcases noLimit with none | zero
      · rw [none, Option.filter_none, ite_self]
      · rw [zero]
        exact ite_self _
    obtain ⟨predicates, ends, noRanges⟩ := whole plain fun c asked =>
      (keeping c asked).elim Column.keepsActors_of_type id
    refine (listing.perm noEnd).trans (List.Perm.trans ?_ all.symm)
    refine (List.perm_ext_iff_of_nodup (Query.nodup_keptIds keyed) (Query.nodup_keptIds keyed)).2 fun id => ?_
    refine ⟨fun kept => fewer kept, fun kept => ?_⟩
    obtain ⟨a, rfl, matched', keeps⟩ := (Query.mem_keptIds keyed).1 kept
    have matched := (keyed.matching_iff_of_isPart part own predicates ends noRanges).2 matched'
    exact (Query.mem_keptIds keyed).2 ⟨a, rfl, matched, (alike a matched matched').symm.trans keeps⟩

end Service

/-- The names of actors with four edits at most, and their levels before June. -/
def Json.ofFewEdits : Json :=
  .object [("wikiId", .text "w"), ("columns", .list [.object [("type", .text "userName")],
      .object [("type", .text "levelAtPeriodStart")]]),
    ("requirements", .object [("totalEditsAtMost", .int 4)]), ("startDate", .text "2023-06-01"),
    ("endDate", .text "2023-12-31"), ("serviceAwardLevels", .list [.object [("id", .text "bronze"),
      ("label", .text "Bronze"), ("requiredContributions", .int 1), ("requiredActiveDays", .int 1)]])]

/-- The report on these actors of the small store lists one, and so does the list that is made without columns. -/
theorem Service.modes_of_small :
    ∃ r answer, Payload.readRequest Json.ofFewEdits = .ok r ∧ Store.small.WellKeyed ∧
      (∀ n ∈ Store.small.integers, fitsWord n = true) ∧ ((small.compile none r).run []).result = .ok answer ∧
      r.itemCount = none ∧ (∀ c ∈ r.columns, c.moreThanZero = false) ∧
      (∀ c ∈ r.columns, c.type.keepsActors = true) ∧ answer.actorIds = [1] ∧
      ((small.compile none r.withoutColumns).run []).result = .ok (.ids [1]) := by
  have fits : ∀ n ∈ Store.small.integers, fitsWord n = true := by decide
  obtain ⟨r, parsed, noLimit, plain, keeping, succeeds⟩ : ∃ r, Payload.readRequest Json.ofFewEdits = .ok r ∧
      r.itemCount = none ∧ (∀ c ∈ r.columns, c.moreThanZero = false) ∧
      (∀ c ∈ r.columns, c.type.keepsActors = true) ∧
      (((small.compile none r).run []).result.toOption.any fun a => a.actorIds == [1]) = true :=
    ⟨_, rfl, rfl, by decide, by decide, by decide +kernel⟩
  obtain ⟨answer, compiled, listed⟩ := exists_of_any succeeds
  replace listed := eq_of_beq listed
  obtain ⟨ids, compiled', -, -, all⟩ := modes_of_compile rfl Store.wellKeyed_small fits compiled
  have same := all (Or.inl noLimit) plain fun c asked => Or.inl (keeping c asked)
  rw [listed] at same
  obtain rfl := List.singleton_perm.1 same
  exact ⟨r, answer, parsed, Store.wellKeyed_small, fits, compiled, noLimit, plain, keeping, listed, compiled' []⟩

end ActivityReport
