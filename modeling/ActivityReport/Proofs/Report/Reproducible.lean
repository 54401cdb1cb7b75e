import ActivityReport.Proofs.Plan.Horizon
import ActivityReport.Proofs.Query.Coverage
import ActivityReport.Proofs.Report.Answer
import ActivityReport.Proofs.Report.Provenance
import ActivityReport.Proofs.Store.Agreement

/-!
# Reports can be made again

A report depends on nothing in the store that lies after the horizon of the request: two stores that
agree up to it have the same joined rows, the same rows of the query and the same report, down to the
lines in the log (`Service.compile_eq_of_agreesUpTo`). So what is counted later does not change a report.
-/

namespace ActivityReport

/-! ## Rows -/

namespace Store.AgreesUpTo

variable {s t : Store} {day : Date} {p : JoinPlan} {q : Query} {actorTable : String}

/-- An actor is joined with the same rows in both stores, and kept in both or in neither. -/
lemma joined_iff (h : s.AgreesUpTo t day) (keyed : s.WellKeyed) (keyed' : t.WellKeyed)
    (snapshots : ∀ k ∈ p.snapshots, k.date ≤ day) (ranges : ∀ k ∈ p.ranges, k.date ≤ day) {j : JoinedRow} :
    j ∈ s.joined actorTable p ↔ j ∈ t.joined actorTable p := by
  have row : ∀ k ∈ p.snapshots, ∀ id, s.snapshotRow? actorTable k id = t.snapshotRow? actorTable k id :=
    fun k planned id => h.snapshotRow?_eq keyed keyed' (snapshots k planned) actorTable
  have range : ∀ k ∈ p.ranges, ∀ id, s.range? k id = t.range? k id :=
    fun k planned id => h.range?_eq (ranges k planned)
  have kept : ∀ a : Actor, s.keeps actorTable p a.id = t.keeps actorTable p a.id := by
    intro a
    unfold keeps
    rw [Bool.eq_iff_iff, Bool.and_eq_true, Bool.and_eq_true, List.all_eq_true, List.all_eq_true, List.all_eq_true,
      List.all_eq_true]
    refine and_congr (forall₂_congr fun k planned => ?_) (forall₂_congr fun k planned => ?_)
    · rw [row k planned]
    · rw [range k planned]
  have same : ∀ a : Actor, s.joinedRow actorTable p a = t.joinedRow actorTable p a := by
    intro a
    unfold joinedRow
    congr 1
    · exact List.map_congr_left fun k planned => by rw [row k planned]
    · exact List.map_congr_left fun k planned => by rw [range k planned]
  rw [keyed.joined_eq, keyed'.joined_eq]
  simp only [List.mem_map, List.mem_filter, kept, same, h.actors]

/-- A predicate holds in a joined row alike in both stores. -/
lemma holds_eq (h : s.AgreesUpTo t day) (j : JoinedRow) (predicate : Predicate) :
    predicate.holds s j = predicate.holds t j := by
  have template : s.hasTemplate j.actor.id = t.hasTemplate j.actor.id := funext h.hasTemplate_eq
  cases predicate with
  | status statuses lastDay => cases statuses <;> rfl
  | inGroups names => exact h.isInGroups_eq names
  | notInGroups names => exact congrArg (!·) (h.isInGroups_eq names)
  | hasTemplates names => rw [Predicate.holds, Predicate.holds, template]
  | hasNoTemplates names => rw [Predicate.holds, Predicate.holds, template]
  | _ => rfl

/-- A query returns the same rows from both stores. -/
lemma rows_eq (h : s.AgreesUpTo t day) (keyed : s.WellKeyed) (keyed' : t.WellKeyed)
    (snapshots : ∀ k ∈ q.plan.snapshots, k.date ≤ day) (ranges : ∀ k ∈ q.plan.ranges, k.date ≤ day) :
    q.rows s actorTable = q.rows t actorTable := by
  have members : ∀ j, j ∈ q.matching s actorTable ↔ j ∈ q.matching t actorTable := by
    intro j
    simp only [Query.mem_matching, h.joined_iff keyed keyed' snapshots ranges, h.holds_eq j]
  have sorted : (q.matching s actorTable).Pairwise fun a b => a.actor.id < b.actor.id :=
    Query.pairwise_matching keyed
  have sorted' : (q.matching t actorTable).Pairwise fun a b => a.actor.id < b.actor.id :=
    Query.pairwise_matching keyed'
  have irrefl : ∀ {list : List JoinedRow}, (list.Pairwise fun a b => a.actor.id < b.actor.id) → list.Nodup :=
    fun pairwise => pairwise.imp fun {a b} lt (same : a = b) => Int.lt_irrefl _ (same ▸ lt)
  have perm := (List.perm_ext_iff_of_nodup (irrefl sorted) (irrefl sorted')).2 members
  have same : q.matching s actorTable = q.matching t actorTable :=
    List.Perm.eq_of_pairwise (fun a b _ _ lt gt => absurd lt (Int.lt_asymm gt)) sorted sorted' perm
  rw [Query.rows, Query.rows, same]

end Store.AgreesUpTo

/-! ## Reports -/

/-- A service whose database holds a store. -/
def Service.withStore (x : Service) (s : Store) : Service :=
  { x with database := { x.database with store := some s } }

/-- A store with more counters. -/
def Store.withCounters (s : Store) (rows : List CounterRow) : Store := { s with counters := s.counters ++ rows }

/-- Counters after a day leave a store as it was up to the day. -/
lemma Store.agreesUpTo_withCounters {s : Store} {rows : List CounterRow} {day : Date}
    (late : ∀ row ∈ rows, day < row.date) : s.AgreesUpTo (s.withCounters rows) day where
  actors _ := Iff.rfl
  groups _ := Iff.rfl
  templates _ := Iff.rfl
  counters row early := by
    rw [withCounters, List.mem_append, or_iff_left]
    exact fun listed => absurd early (Nat.not_le.2 (late row listed))

namespace Service

variable {x : Service} {r : Request} {q : Query} {s t : Store}

/-- A query with the same rows in two stores is run alike. -/
lemma execute_congr (same : ∀ actorTable, q.rows s actorTable = q.rows t actorTable) (layout : Layout) :
    (x.withStore s).execute r q layout = (x.withStore t).execute r q layout := by
  have run : ∀ n, (x.withStore s).database.execute n q = (x.withStore t).database.execute n q := by
    intro n
    unfold Database.execute Database.tablesOf withStore
    dsimp only
    split
    · rfl
    · split
      · rfl
      · split
        · simp only [bind, Except.bind, same]
        · rfl
  unfold execute
  rw [run]
  rfl

/-- A query with the same rows and the same groups in two stores is answered alike. -/
lemma answer_congr (rows : ∀ actorTable, q.rows s actorTable = q.rows t actorTable)
    (groups : ∀ chunk ids, s.fetchGroups chunk ids = t.fetchGroups chunk ids) (ladder : Option Ladder)
    (bots : List String) : (x.withStore s).answer r q ladder bots = (x.withStore t).answer r q ladder bots := by
  have source : groupSource s = groupSource t := by
    unfold groupSource
    simp only [groups]
  unfold answer
  dsimp only
  rw [execute_congr rows]
  refine Traced.bind_congr fun result _ => ?_
  cases result with
  | inl sources =>
    show (stage r "postprocess" (Layout.report _ r _ (groupSource s) sources) >>= _) =
      (stage r "postprocess" (Layout.report _ r _ (groupSource t) sources) >>= _)
    rw [source]
    rfl
  | inr ids => rfl

/-- A request whose query is answered alike from two stores is compiled alike. -/
lemma compile_congr {bots : Option (List String)}
    (same : ∀ q, (prepare r).ComesTo q → ∀ ladder flagless,
      (x.withStore s).answer r q ladder flagless = (x.withStore t).answer r q ladder flagless) :
    (x.withStore s).compile bots r = (x.withStore t).compile bots r := by
  have work : ∀ ladder flagless, (prepare r >>= fun q => (x.withStore s).guardedAnswer r q ladder flagless) =
      prepare r >>= fun q => (x.withStore t).guardedAnswer r q ladder flagless := by
    intro ladder flagless
    refine Traced.bind_congr fun q prepared => ?_
    rw [guardedAnswer, guardedAnswer, same q prepared]
  unfold compile
  simp only [work]
  rfl

/-- Stores that agree up to the horizon of a request give the same report. -/
lemma compile_eq (keyed : s.WellKeyed) (keyed' : t.WellKeyed) (agree : s.AgreesUpTo t r.horizon)
    (bots : Option (List String)) : (x.withStore s).compile bots r = (x.withStore t).compile bots r := by
  refine compile_congr fun q prepared ladder flagless => ?_
  obtain ⟨p, planned, built⟩ := query_of_prepare prepared
  obtain ⟨snapshots, ranges⟩ := Request.date_le_horizon planned
  rw [← Query.plan_of_ofPlan built] at snapshots ranges
  exact answer_congr (fun _ => agree.rows_eq keyed keyed' snapshots ranges)
    (agree.fetchGroups_eq keyed keyed') ladder flagless

/-- A report is the same from two stores that agree up to the horizon of the request, down to the lines in the
log. When no epoch counts days forward, counters after the last day do not change a report. -/
theorem compile_eq_of_agreesUpTo (x : Service) (bots : Option (List String)) (r : Request) (keyed : s.WellKeyed) :
    (∀ t : Store, t.WellKeyed → s.AgreesUpTo t r.horizon →
      (x.withStore s).compile bots r = (x.withStore t).compile bots r) ∧
    ((∀ c ∈ r.conditions, c.IsPast) → ∀ rows : List CounterRow, (s.withCounters rows).WellKeyed →
      (∀ row ∈ rows, r.window.finish < row.date) →
        (x.withStore (s.withCounters rows)).compile bots r = (x.withStore s).compile bots r) := by
  refine ⟨fun t keyed' agree => compile_eq keyed keyed' agree bots, fun past rows keyed' late => ?_⟩
  refine compile_eq keyed' keyed ?_ bots
  rw [Request.horizon_eq_finish past]
  exact (Store.agreesUpTo_withCounters late).symm

end Service

/-- The fifth of May 2024. -/
def Date.nextMayFifth : Date := ⟨739011, by decide, by decide⟩

/-- The edits of actors with four edits at least ten days before the end of 2023. -/
def Json.ofEpoch : Json :=
  .object [("wikiId", .text "w"), ("columns", .list [.object [("type", .text "editsSinceRegistration")]]),
    ("requirements", .object [("totalEditsAtLeast", .object [("count", .int 4), ("epoch", .int (-10))])]),
    ("endDate", .text "2023-12-31")]

/-- A row of the second actor of the small store in 2024. -/
def CounterRow.late : CounterRow := .uniform (some 2) Date.nextMayFifth 3 5

/-- What the second actor of the small store does in 2024 leaves the report on 2023 as it is. -/
theorem Service.compile_of_late_counters :
    ∃ r answer, Payload.readRequest Json.ofEpoch = .ok r ∧ Store.small.WellKeyed ∧
      (Store.small.withCounters [.late]).WellKeyed ∧
      Store.small.AgreesUpTo (Store.small.withCounters [.late]) r.horizon ∧
      (∀ c ∈ r.conditions, c.IsPast) ∧ (∀ row ∈ [CounterRow.late], r.window.finish < row.date) ∧
      (((small.withStore Store.small).compile none r).run []).result = .ok answer ∧ answer.size = 1 ∧
      (small.withStore Store.small).compile none r =
        (small.withStore (Store.small.withCounters [.late])).compile none r ∧
      (small.withStore (Store.small.withCounters [.late])).compile none r =
        (small.withStore Store.small).compile none r := by
  obtain ⟨r, parsed, past, late, succeeds⟩ : ∃ r, Payload.readRequest Json.ofEpoch = .ok r ∧
      (∀ c ∈ r.conditions, c.IsPast) ∧ (∀ row ∈ [CounterRow.late], r.window.finish < row.date) ∧
      (((small.compile none r).run []).result.toOption.any fun a => a.size == 1) = true :=
    ⟨_, rfl, by decide +kernel, by decide +kernel, by decide +kernel⟩
  have keyed : (Store.small.withCounters [.late]).WellKeyed := ⟨by decide, by decide, by decide, by decide⟩
  have agree : Store.small.AgreesUpTo (Store.small.withCounters [.late]) r.horizon := by
    rw [Request.horizon_eq_finish past]
    exact Store.agreesUpTo_withCounters late
  obtain ⟨same, unchanged⟩ := compile_eq_of_agreesUpTo small none r Store.wellKeyed_small
  obtain ⟨answer, compiled, one⟩ := exists_of_any succeeds
  exact ⟨r, answer, parsed, Store.wellKeyed_small, keyed, agree, past, late, compiled, eq_of_beq one,
    same _ keyed agree, unchanged past _ keyed late⟩

end ActivityReport
