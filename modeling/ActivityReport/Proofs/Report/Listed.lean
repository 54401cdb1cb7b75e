import ActivityReport.Proofs.Report.Provenance
import ActivityReport.Proofs.Report.Requirements

/-!
# Who is listed

The actors of an answer, whatever its form. The matching rows whose levels meet the conditions are what any answer
is made of (`Query.keptIds`): a list of actors has all of them, and a report has them in its own order and breaks
off after the last number that is asked for (`Service.actorIds_of_answer`).
-/

namespace ActivityReport

open Traced (ComesTo comesTo_pure)

/-- The actors of an answer, in its order. -/
def Answer.actorIds : Answer → List Int
  | rows list => list.filterMap fun row => row.id.int?
  | ids list => list

/-- The actors of the matching rows whose levels meet the conditions. -/
def Query.keptIds (q : Query) (s : Store) (actorTable : String) (r : Request) (ladder : Option Ladder) : List Int :=
  ((q.matching s actorTable).filter (·.keepsLevels r q ladder)).map (·.actor.id)

/-- Whether the actors are among the first ones of some list, rearranged; without a limit they are all of it. -/
def IsListing (listed all : List Int) (limit : Option Nat) : Prop :=
  ∃ order, order.Perm all ∧ listed <+: order ∧ (limit = none → listed = order)

namespace IsListing

variable {listed all : List Int} {limit : Option Nat}

/-- Nobody else is listed. -/
lemma subset (h : IsListing listed all limit) : listed ⊆ all := by
  obtain ⟨order, perm, start, -⟩ := h
  exact fun id found => perm.mem_iff.1 (start.subset found)

/-- Nobody is listed twice who is not there twice. -/
lemma nodup (h : IsListing listed all limit) (nodup : all.Nodup) : listed.Nodup := by
  obtain ⟨order, perm, start, -⟩ := h
  exact (perm.nodup_iff.2 nodup).sublist start.sublist

/-- Without a limit everybody is listed. -/
lemma perm (h : IsListing listed all limit) (noLimit : limit = none) : listed.Perm all := by
  obtain ⟨order, perm, -, whole⟩ := h
  rw [whole noLimit]
  exact perm

end IsListing

/-! ## Numbering -/

/-- Rows whose groups were looked up are of the same actors. -/
lemma GroupedRow.map_id_ofLookup (groupsOf : Cell → List Cell) (rows : List ReportRow) :
    (rows.map (ofLookup groupsOf)).map (·.row.id) = rows.map ReportRow.id := by
  rw [List.map_map]
  rfl

namespace NumberingRules

variable {rules : NumberingRules} {lookup : GroupLookup} {batch count : Nat} {known : List GroupedRow}
  {rest : List ReportRow}

/-- Numbering keeps rows in order and leaves out none but the last ones. -/
lemma ids_prefix : (rules.number lookup batch count known rest).1.map ActorRow.id <+:
    known.map (·.row.id) ++ rest.map ReportRow.id := by
  fun_induction number rules lookup batch count known rest with
  | case1 => exact List.prefix_refl _
  | case2 | case5 => exact List.nil_prefix
  | case3 count g known rest notDone passed rows asked found ih
  | case4 count g known rest notDone passed rows asked found ih =>
    rw [found] at ih
    exact (List.prefix_cons_inj _).2 ih
  | case6 count first rest notDone ids rows asked found ih =>
    rw [found, GroupedRow.map_id_ofLookup, ← List.map_append, List.cons_append, List.take_append_drop] at ih
    exact ih

/-- Without a limit no row is left out. -/
lemma ids_of_no_limit (noLimit : rules.limit = none) :
    (rules.number lookup batch count known rest).1.map ActorRow.id =
      known.map (·.row.id) ++ rest.map ReportRow.id := by
  have notDone : ∀ count, rules.isDone count = false := by
    intro count
    rw [isDone, noLimit]
    rfl
  fun_induction number rules lookup batch count known rest with
  | case1 => rfl
  | case2 count g known rest done | case5 count first rest done => rw [notDone] at done; cases done
  | case3 count g known rest _ passed rows asked found ih
  | case4 count g known rest _ passed rows asked found ih =>
    rw [found] at ih
    exact congrArg (g.row.id :: ·) ih
  | case6 count first rest _ ids rows asked found ih =>
    rw [found, GroupedRow.map_id_ofLookup, ← List.map_append, List.cons_append, List.take_append_drop] at ih
    exact ih

end NumberingRules

/-! ## Reports -/

/-- Rows in order are of the same actors. -/
lemma Layout.ids_of_ordered {l : Layout} {r : Request} {groups : GroupSource} {reports rest : List ReportRow}
    {known : List GroupedRow} (h : (l.ordered r groups reports).ComesTo (known, rest)) :
    (known.map (·.row.id) ++ rest.map ReportRow.id).Perm (reports.map ReportRow.id) := by
  rcases cases_of_ordered h with ⟨-, rfl, sorted⟩ | ⟨-, rfl, lookup, sorted, -, isSorted, rfl⟩
  · exact (sortRows_perm sorted).map _
  · have perm := (sortRows_perm isSorted).map ReportRow.id
    rw [List.map_map] at perm
    rw [GroupedRow.map_id_ofLookup, List.map_nil, List.append_nil]
    exact perm

/-- A report is on the rows that get their levels and are kept for them, up to the limit. -/
lemma Layout.ids_of_report {l : Layout} {r : Request} {rules : NumberingRules} {groups : GroupSource}
    {raw : List SourceRow} {rows : List ActorRow} (h : (l.report r rules groups raw).ComesTo rows) :
    ∃ all, l.withLevels raw = .ok all ∧ ∃ order, order.Perm ((all.filter r.keepsLevels).map (·.raw.id)) ∧
      rows.map ActorRow.id <+: order ∧ (rules.limit = none → rows.map ActorRow.id = order) := by
  obtain ⟨all, levelled, known, rest, ordered, rfl⟩ := stages_of_report h
  have perm := ids_of_ordered ordered
  rw [List.map_map] at perm
  exact ⟨all, levelled, _, perm, NumberingRules.ids_prefix, NumberingRules.ids_of_no_limit⟩

/-- The actors of an answer are those of the matching rows whose levels meet the conditions, up to the limit; every
matching row has got its levels. -/
theorem Service.actorIds_of_answer {x : Service} {s : Store} (stored : x.database.store = some s) {r : Request}
    {q : Query} {ladder : Option Ladder} {flagless : List String} {answer : Answer}
    (planned : JoinPlan.ofRequest r = .ok q.plan) (h : (x.answer r q ladder flagless).ComesTo answer) :
    IsListing answer.actorIds (q.keptIds s (x.settings.naming r.wikiId).actorTable r ladder)
      (if r.columns = [] then none else r.itemCount.filter (0 < ·)) ∧
      ∀ j ∈ q.matching s (x.settings.naming r.wikiId).actorTable, ∃ row,
        (RawRow.ofJoined q j).source.withLevels ladder q.plan.levels = .ok row := by
  by_cases noColumns : r.columns = []
  · obtain ⟨rfl, levelled⟩ := ids_of_answer stored noColumns (Request.requiresLevels_eq_false planned) h
    exact ⟨⟨_, List.Perm.refl _, List.prefix_refl _, fun _ => rfl⟩, levelled⟩
  · obtain ⟨rows, reported, rfl⟩ := report_of_answer stored noColumns h
    obtain ⟨all, levelled, order, perm, start, whole⟩ := Layout.ids_of_report reported
    rw [Layout.withLevels, Query.rows, List.map_map] at levelled
    rw [if_neg noColumns]
    -- in the rows of a query every actor is a number
    have ids : ((all.filter r.keepsLevels).map (·.raw.id)).filterMap Cell.int? =
        q.keptIds s (x.settings.naming r.wikiId).actorTable r ladder := Layout.filterMap_ids levelled
    have actorIds : (Answer.rows rows).actorIds = (rows.map ActorRow.id).filterMap Cell.int? := by
      rw [List.filterMap_map]
      rfl
    refine ⟨⟨order.filterMap Cell.int?, ids ▸ perm.filterMap _, ?_, fun noLimit => ?_⟩, fun j listed => ?_⟩
    · rw [actorIds]
      exact start.filterMap _
    · rw [actorIds, whole noLimit]
    · obtain ⟨row, -, own⟩ := exists_of_mapM_eq_ok levelled (List.mem_map.2 ⟨j, listed, rfl⟩)
      exact ⟨row, own⟩

end ActivityReport
