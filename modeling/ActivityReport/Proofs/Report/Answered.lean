import ActivityReport.Proofs.Report.Comparable
import ActivityReport.Proofs.Report.Modes

/-!
# Queries that are answered

Once a database has run a query there is an answer (`Service.exists_answer_yields`): the rows get their levels, they can
be compared and so sorted, and as actors are numbers and names are texts all of them can be looked up and numbered. So a
query is answered exactly when the database runs it (`Service.answer_eq_error_iff`).
-/

namespace ActivityReport.Service

open Number (fitsWord)
open Traced (Yields run_bind_eq_error run_stage)

variable {x : Service} {s : Store} {r : Request} {p : JoinPlan} {q : Query} {ladder : Option Ladder}
  {flagless : List String}

lemma lacksLabels_layout (ladder : Option Ladder) (built : Query.ofPlan p r = .ok q) :
    (layout r q ladder).lacksLabels r = false := by
  have same : ((layout r q ladder).columns.map (·.column.type)).length = (r.columns.map Column.type).length :=
    congrArg List.length (types_columns built)
  rw [List.length_map, List.length_map] at same
  exact decide_eq_false (by omega)

/-- Rows that a database returns come into order, with groups for all of them or for none. -/
lemma exists_ordered_yields (ladder : Option Ladder) (s : Store) (built : Query.ofPlan p r = .ok q)
    {rows : List LevelledRow} (returned : ∀ row ∈ rows, ∃ raw : RawRow, row.raw = raw.source) :
    ∃ known rest, ((layout r q ladder).ordered r (groupSource s)
        (rows.map (·.report (layout r q ladder) r.window))).Yields (known, rest) ∧
      (known = [] ∨ rest = []) ∧ ∀ row ∈ known.map (·.row) ++ rest, row.IsNamed := by
  have ids : (rows.map (·.report (layout r q ladder) r.window)).map ReportRow.id = rows.map (·.raw.id) := List.map_map
  obtain ⟨groups, texts⟩ := exists_texts s (rows.map (·.raw.id))
  obtain ⟨sorted, inOrder⟩ := exists_sortRows_sortedRow ladder groups built returned
  have named : ∀ row ∈ sorted, row.IsNamed := by
    intro report listed
    obtain ⟨row, known, rfl⟩ := List.mem_map.1 ((sortRows_perm inOrder).mem_iff.1 listed)
    obtain ⟨raw, own⟩ := returned row known
    exact isNamed_sortedRow _ r groups own
  have noFault : (rows.map (·.raw.id)).findSome? Cell.keyFault? = none := by
    refine List.findSome?_eq_none_iff.2 fun id listed => ?_
    obtain ⟨row, known, rfl⟩ := List.mem_map.1 listed
    obtain ⟨raw, own⟩ := returned row known
    rw [own]
    rfl
  unfold Layout.ordered
  dsimp only
  rw [ids, texts, noFault]
  split
  · rename_i asked
    rw [Layout.map_sortedRow_of_asked (Bool.and_eq_true_iff.1 asked).1] at inOrder
    rw [inOrder]
    refine ⟨sorted.map (GroupedRow.ofLookup fun id => (groups id).map .text), [], ?_, Or.inr rfl, ?_⟩
    · exact (GroupSource.note_yields _ _).bind ((Yields.pure ()).bind ((Yields.logAll _).bind (.pure _)))
    · intro row listed
      rw [List.append_nil, List.map_map] at listed
      obtain ⟨row, inSorted, rfl⟩ := List.mem_map.1 listed
      exact named row inSorted
  · rename_i notAsked
    rw [Layout.map_sortedRow_of_not_asked notAsked] at inOrder
    rw [inOrder]
    exact ⟨[], sorted, (Yields.logAll _).bind (.pure _), Or.inl rfl, named⟩

lemma exists_report_yields (s : Store) (built : Query.ofPlan p r = .ok q) {rows : List RawRow} {all : List LevelledRow}
    (levelled : (layout r q ladder).withLevels (rows.map RawRow.source) = .ok all) (botGroup : String)
    (flagless : List String) :
    ∃ finished, ((layout r q ladder).report r (r.numbering botGroup (flagless.map .text)) (groupSource s)
      (rows.map RawRow.source)).Yields finished := by
  have returned : ∀ row ∈ all.filter r.keepsLevels, ∃ raw : RawRow, row.raw = raw.source := by
    intro row kept
    obtain ⟨source, listed, own⟩ := (mem_of_mapM_eq_ok levelled).1 (List.mem_of_mem_filter kept)
    obtain ⟨raw, -, rfl⟩ := List.mem_map.1 listed
    exact ⟨raw, SourceRow.raw_of_withLevels own⟩
  obtain ⟨known, rest, ordered, whole, named⟩ := exists_ordered_yields ladder s built returned
  have sized : 0 < (groupSource s).size := by
    show (0 : Int) < Database.groupChunk
    decide
  refine ⟨_, Layout.report_yields sized (Layout.levelled_yields levelled) (lacksLabels_layout ladder built)
    ordered whole (fun row listed => (named row listed).isKeyed) ?_⟩
  intro name listed
  obtain ⟨text, -, rfl⟩ := List.mem_map.1 listed
  rfl

/-- A query that the database runs on a store without double keys, whose numbers are words, is answered. -/
theorem exists_answer_yields (keyed : s.WellKeyed) (fits : ∀ n ∈ s.integers, fitsWord n = true)
    (stored : x.database.store = some s) (built : Query.ofRequest r = .ok q) {rows : List RawRow}
    (executed : x.database.execute (x.settings.naming r.wikiId) q = .ok rows) :
    ∃ answer, (x.answer r q ladder flagless).Yields answer := by
  have keys : ∀ l ∈ q.plan.levels, l.key ∈ q.plan.snapshots := by
    obtain ⟨required, -, same⟩ := JoinPlan.ofRequest_eq_ok.1 (Query.ofRequest_plan built)
    rw [same]
    exact fun l listed => JoinPlan.key_mem_ofNeeds listed
  have levels : ∀ row ∈ rows, ∃ own, row.source.withLevels ladder q.plan.levels = .ok own := by
    intro row listed
    rw [Database.execute_eq_ok stored executed] at listed
    obtain ⟨j, matched, rfl⟩ := List.mem_map.1 listed
    exact keyed.exists_withLevels fits (Query.mem_matching.1 matched).1 keys
  by_cases columns : r.columns = []
  · obtain ⟨ids, answered⟩ := answer_yields columns executed levels
    exact ⟨.ids ids, answered⟩
  · obtain ⟨all, levelled⟩ := Layout.exists_withLevels (l := layout r q ladder) levels
    obtain ⟨p, -, made⟩ := bind_eq_ok.1 built
    obtain ⟨finished, reported⟩ := exists_report_yields (x.database.store.getD Store.empty) made levelled
      x.settings.botGroupName flagless
    have found : (x.execute r q (layout r q ladder)).Yields (.inl (rows.map RawRow.source)) := by
      have some : r.columns.isEmpty = false := Bool.eq_false_iff.2 fun none => columns (List.isEmpty_iff.1 none)
      unfold execute
      refine (Yields.logAll _).bind ((Yields.result executed).bind ?_)
      rw [some, Bool.false_and, if_neg Bool.false_ne_true, if_neg Bool.false_ne_true]
      exact (Yields.logAll _).bind (.pure _)
    exact ⟨.rows finished, found.stage.bind (reported.stage.bind (.pure _))⟩

lemma run_answer_of_refused {e : Failure} (refused : x.database.execute (x.settings.naming r.wikiId) q = .error e)
    (clock : List Float) : ((x.answer r q ladder flagless).run clock).result = .error e := by
  have failed : ∀ clock, ((x.execute r q (layout r q ladder)).run clock).result = .error e := by
    intro clock
    refine run_bind_eq_error.2 (Or.inr ⟨(), rfl, ?_⟩)
    exact run_bind_eq_error.2 (Or.inl refused)
  refine run_bind_eq_error.2 (Or.inl ?_)
  rw [stage, (run_stage clock).1]
  exact failed _

/-- An answer fails exactly as the database does with the query: what is done with its rows never fails. -/
theorem answer_eq_error_iff
    (stored : ∀ s, x.database.store = some s → s.WellKeyed ∧ ∀ n ∈ s.integers, fitsWord n = true)
    (built : Query.ofRequest r = .ok q) {clock : List Float} {e : Failure} :
    ((x.answer r q ladder flagless).run clock).result = .error e ↔
      x.database.execute (x.settings.naming r.wikiId) q = .error e := by
  refine ⟨fun failed => ?_, fun refused => run_answer_of_refused refused clock⟩
  cases executed : x.database.execute (x.settings.naming r.wikiId) q with
  | error e' =>
    rw [run_answer_of_refused executed] at failed
    exact congrArg Except.error (Except.error.inj failed)
  | ok rows =>
    obtain ⟨s, tables, -⟩ := bind_eq_ok.1 executed
    have own := Database.store_of_tablesOf tables
    obtain ⟨keyed, fits⟩ := stored s own
    obtain ⟨answer, answered⟩ := exists_answer_yields keyed fits own built executed
    rw [answered clock] at failed
    cases failed

end ActivityReport.Service
