import ActivityReport.Proofs.Report.Answered
import ActivityReport.Proofs.Report.Columns

/-!
# One condition more

Who is kept by the query of a request, said of the store alone: the actors with all rows that the joins ask for, who
pass the filters of all columns and meet all conditions (`Query.mem_keptIds_iff`). So a request with one condition
more is answered whenever the database runs its query, and it lists those of the actors who meet the condition
(`Service.answer_of_adds`).
-/

namespace ActivityReport

open Number (fitsWord)
open Traced (ComesTo Yields)

/-! ## Who is kept -/

/-- Whether an actor passes the filter of a column: its value is positive where the column asks for that. -/
def Store.Passes (s : Store) (actorTable : String) (w : Window) (c : Column) (a : Actor) : Prop :=
  c.moreThanZero = true → ∀ e, c.expression? w = some e →
    (e.eval (s.joinedRow actorTable (.ofNeeds (c.needs w)) a)).isPositive = true

namespace Query

variable {s : Store} {n : Naming} {r : Request} {q : Query} {p : JoinPlan} {ladder : Option Ladder}

/-- In the joined row of an actor the predicates of the columns hold exactly when the actor passes their filters. -/
lemma holds_columns_iff (keyed : s.WellKeyed) (planned : JoinPlan.ofRequest r = .ok p) {j : JoinedRow}
    (found : j ∈ s.joined n.actorTable p) :
    (∀ b ∈ r.columns.flatMap (·.predicates r.window), b.holds s j = true) ↔
      ∀ c ∈ r.columns, s.Passes n.actorTable r.window c j.actor := by
  simp only [List.mem_flatMap, forall_exists_index, and_imp]
  rw [forall_comm]
  refine forall_congr' fun c => ⟨fun all asked filtered e expressed => ?_, fun passes b asked own => ?_⟩
  · rw [← Service.eval_eq keyed planned found asked expressed]
    refine all (.positive e) asked ?_
    rw [Column.predicates, if_pos filtered, expressed]
    exact List.mem_singleton_self _
  · unfold Column.predicates at own
    split at own
    · rename_i filtered
      obtain ⟨e, expressed, rfl⟩ := List.mem_map.1 own
      have expressed := Option.mem_toList.1 expressed
      show (e.eval j).isPositive = true
      rw [Service.eval_eq keyed planned found asked expressed]
      exact passes asked filtered e expressed
    · cases own

/-- Kept are the actors with all rows that the joins ask for, who pass the filters of all columns and meet all
conditions. -/
theorem mem_keptIds_iff (keyed : s.WellKeyed) (built : ofRequest r = .ok q)
    (countsNoLogs : ∀ c ∈ r.conditions, ¬ c.CountsLogs)
    (levelled : ∀ j ∈ q.matching s n.actorTable, ∃ row,
      (RawRow.ofJoined q j).source.withLevels ladder q.plan.levels = .ok row) {actorId : Int} :
    actorId ∈ q.keptIds s n.actorTable r ladder ↔ ∃ a ∈ s.actors, a.id = actorId ∧
      s.keeps n.actorTable q.plan a.id = true ∧ (∀ c ∈ r.columns, s.Passes n.actorTable r.window c a) ∧
        ∀ c ∈ r.conditions, s.Meets r.window ladder a c := by
  have planned : JoinPlan.ofRequest r = .ok q.plan := ofRequest_plan built
  obtain ⟨p, -, made⟩ := bind_eq_ok.1 built
  obtain rfl := plan_of_ofPlan made
  obtain ⟨predicates, required, same⟩ := ofPlan_eq_ok.1 made
  have filters : ∀ a, s.joinedRow n.actorTable q.plan a ∈ s.joined n.actorTable q.plan →
      ((∀ b ∈ q.predicates, b.holds s (s.joinedRow n.actorTable q.plan a) = true) ↔
        (∀ c ∈ r.columns, s.Passes n.actorTable r.window c a) ∧
          ∀ c ∈ r.conditions, c.isLevel = false → s.Meets r.window ladder a c) := by
    intro a joined
    have all : q.predicates = r.columns.flatMap (·.predicates r.window) ++ predicates.filterMap id := by rw [same]
    rw [all, List.forall_mem_append]
    exact and_congr (holds_columns_iff keyed planned joined)
      (keyed.holds_required_iff planned required countsNoLogs joined)
  rw [mem_keptIds keyed]
  constructor
  · rintro ⟨a, rfl, matched, keeps⟩
    obtain ⟨joined, holds⟩ := mem_matching.1 matched
    obtain ⟨row, own⟩ := levelled _ matched
    rw [JoinedRow.keepsLevels, own] at keeps
    obtain ⟨passes, meets⟩ := (filters a joined).1 holds
    obtain ⟨-, listed, kept⟩ := keyed.eq_joinedRow_of_mem joined
    refine ⟨a, listed, rfl, kept, passes, fun c asked => ?_⟩
    cases isLevel : c.isLevel with
    | false => exact meets c asked isLevel
    | true => exact (keyed.keepsLevels_iff planned joined own).1 keeps c asked isLevel
  · rintro ⟨a, listed, rfl, kept, passes, meets⟩
    have joined : s.joinedRow n.actorTable q.plan a ∈ s.joined n.actorTable q.plan := by
      rw [keyed.joined_eq]
      exact List.mem_map.2 ⟨a, List.mem_filter.2 ⟨listed, kept⟩, rfl⟩
    have matched := mem_matching.2 ⟨joined, (filters a joined).2 ⟨passes, fun c asked _ => meets c asked⟩⟩
    obtain ⟨row, own⟩ := levelled _ matched
    refine ⟨a, rfl, matched, ?_⟩
    rw [JoinedRow.keepsLevels, own]
    exact (keyed.keepsLevels_iff planned joined own).2 fun c asked _ => meets c asked

/-- Of a request with a query the needs and the predicate of each condition are found. -/
lemma exists_of_mem_conditions (built : ofRequest r = .ok q) {c : Condition} (asked : c ∈ r.conditions) :
    ∃ list predicate, c.needs r.window = .ok list ∧ c.predicate? r.window = .ok predicate := by
  obtain ⟨needs, each, -⟩ := JoinPlan.ofRequest_eq_ok.1 (ofRequest_plan built)
  obtain ⟨p, -, made⟩ := bind_eq_ok.1 built
  obtain ⟨predicates, all, -⟩ := ofPlan_eq_ok.1 made
  obtain ⟨list, -, needed⟩ := exists_of_mapM_eq_ok each asked
  obtain ⟨predicate, -, required⟩ := exists_of_mapM_eq_ok all asked
  exact ⟨list, predicate, needed, required⟩

end Query

/-! ## One more -/

/-- Whether a request is another one with a condition more, wherever that stands among the others. -/
def Request.Adds (c : Condition) (r r' : Request) : Prop :=
  ∃ conditions : Requirement, conditions.Perm (c :: r.conditions) ∧ r' = { r with requirements := some conditions }

namespace Request.Adds

variable {c : Condition} {r r' : Request}

lemma wikiId (h : Adds c r r') : r'.wikiId = r.wikiId := by
  obtain ⟨_, -, rfl⟩ := h
  rfl

lemma columns (h : Adds c r r') : r'.columns = r.columns := by
  obtain ⟨_, -, rfl⟩ := h
  rfl

lemma window (h : Adds c r r') : r'.window = r.window := by
  obtain ⟨_, -, rfl⟩ := h
  rfl

lemma itemCount (h : Adds c r r') : r'.itemCount = r.itemCount := by
  obtain ⟨_, -, rfl⟩ := h
  rfl

lemma mem_conditions (h : Adds c r r') {c' : Condition} : c' ∈ r'.conditions ↔ c' = c ∨ c' ∈ r.conditions := by
  obtain ⟨_, perm, rfl⟩ := h
  exact perm.mem_iff.trans List.mem_cons

lemma forall_conditions (h : Adds c r r') {P : Condition → Prop} :
    (∀ c' ∈ r'.conditions, P c') ↔ P c ∧ ∀ c' ∈ r.conditions, P c' := by
  simp only [h.mem_conditions, forall_eq_or_imp]

/-- A condition that is not about levels leaves the ladder as it is. -/
lemma resolveLadder (h : Adds c r r') (notLevel : c.isLevel = false) (files : Resources) :
    files.resolveLadder r' = files.resolveLadder r := by
  obtain ⟨list, perm, rfl⟩ := h
  have any : list.any Condition.isLevel = r.conditions.any Condition.isLevel := by
    rw [perm.any_eq, List.any_cons, notLevel, Bool.false_or]
  have needs : Request.needsLevels { r with requirements := some list } = r.needsLevels :=
    congrArg (r.columns.any Column.isLevel || ·) any
  unfold Resources.resolveLadder
  rw [needs]

lemma resolveFlaglessBots (h : Adds c r r') (files : Resources) :
    files.resolveFlaglessBots r' = files.resolveFlaglessBots r := by
  obtain ⟨_, -, rfl⟩ := h
  rfl

variable {q q' : Query} {list : List Need} {predicate : Option Predicate}

/-- The query of a request with one condition more, whose needs and whose predicate are found. -/
lemma exists_query (h : Adds c r r') (built : Query.ofRequest r = .ok q) (needed : c.needs r.window = .ok list)
    (required : c.predicate? r.window = .ok predicate) :
    ∃ q', Query.ofRequest r' = .ok q' ∧ ∀ b, predicate = some b → b ∈ q'.predicates := by
  have others : ∀ c' ∈ r.conditions, ∃ list' predicate', c'.needs r'.window = .ok list' ∧
      c'.predicate? r'.window = .ok predicate' := by
    rw [h.window]
    exact fun c' asked => Query.exists_of_mem_conditions built asked
  obtain ⟨needs', each'⟩ : ∃ needs', r'.conditions.mapM (·.needs r'.window) = .ok needs' := by
    refine exists_mapM_eq_ok (h.forall_conditions.2 ⟨⟨list, h.window ▸ needed⟩, fun c' asked => ?_⟩)
    obtain ⟨list', -, own, -⟩ := others c' asked
    exact ⟨list', own⟩
  obtain ⟨predicates', all'⟩ : ∃ predicates', r'.conditions.mapM (·.predicate? r'.window) = .ok predicates' := by
    refine exists_mapM_eq_ok (h.forall_conditions.2 ⟨⟨predicate, h.window ▸ required⟩, fun c' asked => ?_⟩)
    obtain ⟨-, predicate', -, own⟩ := others c' asked
    exact ⟨predicate', own⟩
  refine ⟨_, bind_eq_ok.2 ⟨_, mapError_eq_ok.2 (JoinPlan.ofRequest_eq_ok.2 ⟨needs', each', rfl⟩),
    Query.ofPlan_eq_ok.2 ⟨predicates', all', rfl⟩⟩, fun b own => ?_⟩
  obtain ⟨found, mem, same⟩ := exists_of_mapM_eq_ok all' (h.mem_conditions.2 (Or.inl rfl))
  rw [h.window, required] at same
  cases same
  exact List.mem_append_right _ (List.mem_filterMap.2 ⟨predicate, mem, own⟩)

/-- What is needed with one condition more. -/
lemma mem_needs (h : Adds c r r') (needed : c.needs r.window = .ok list) {needs needs' : List (List Need)}
    (each : r.conditions.mapM (·.needs r.window) = .ok needs)
    (each' : r'.conditions.mapM (·.needs r'.window) = .ok needs') {need : Need} :
    need ∈ r'.columns.flatMap (·.needs r'.window) ++ needs'.flatten ↔
      need ∈ r.columns.flatMap (·.needs r.window) ++ needs.flatten ∨ need ∈ list := by
  have conditions : need ∈ needs'.flatten ↔ need ∈ needs.flatten ∨ need ∈ list := by
    simp only [List.mem_flatten, mem_of_mapM_eq_ok each, mem_of_mapM_eq_ok each', h.mem_conditions, h.window]
    constructor
    · rintro ⟨own, ⟨c', rfl | asked, found⟩, listed⟩
      · rw [needed] at found
        cases found
        exact Or.inr listed
      · exact Or.inl ⟨own, ⟨c', asked, found⟩, listed⟩
    · rintro (⟨own, ⟨c', asked, found⟩, listed⟩ | listed)
      · exact ⟨own, ⟨c', Or.inr asked, found⟩, listed⟩
      · exact ⟨list, ⟨c, Or.inl rfl, needed⟩, listed⟩
  rw [List.mem_append, List.mem_append, conditions, h.columns, h.window, or_assoc]

/-- The joins of the query keep those of the actors who have the rows that they ask for on behalf of the condition. -/
lemma keeps_iff (h : Adds c r r') (built : Query.ofRequest r = .ok q) (built' : Query.ofRequest r' = .ok q')
    (needed : c.needs r.window = .ok list) {s : Store} {n : Naming} {actorId : Int} :
    s.keeps n.actorTable q'.plan actorId = true ↔ s.keeps n.actorTable q.plan actorId = true ∧
      ∀ day, .snapshot ⟨.actor, .finish, day, .whole⟩ ∈ list ∨ .level ⟨.finish, day⟩ ∈ list →
        s.HasRowBy actorId day := by
  obtain ⟨needs, each, plan⟩ := JoinPlan.ofRequest_eq_ok.1 (Query.ofRequest_plan built)
  obtain ⟨needs', each', plan'⟩ := JoinPlan.ofRequest_eq_ok.1 (Query.ofRequest_plan built')
  have snapshots : ∀ day, (⟨.actor, .finish, day, .whole⟩ : SnapshotKey) ∈ q'.plan.snapshots ↔
      (⟨.actor, .finish, day, .whole⟩ : SnapshotKey) ∈ q.plan.snapshots ∨
        (.snapshot ⟨.actor, .finish, day, .whole⟩ ∈ list ∨ .level ⟨.finish, day⟩ ∈ list) := by
    intro day
    have level : ∀ l : LevelSnapshot, l.key = ⟨.actor, .finish, day, .whole⟩ ↔ l = ⟨.finish, day⟩ := by
      rintro ⟨boundary, day'⟩
      simp [LevelSnapshot.key]
    rw [plan, plan', JoinPlan.mem_snapshots_ofNeeds, JoinPlan.mem_snapshots_ofNeeds]
    simp only [h.mem_needs needed each each', level, exists_eq_right]
    tauto
  have ranges : ∀ key, key ∈ q'.plan.ranges ↔ key ∈ q.plan.ranges := by
    intro key
    rw [plan, plan', JoinPlan.mem_ranges_ofNeeds, JoinPlan.mem_ranges_ofNeeds, h.mem_needs needed each each']
    exact or_iff_left (c.range_not_mem_needs needed)
  rw [Store.keeps_iff, Store.keeps_iff]
  simp only [snapshots, ranges, or_imp, forall_and]
  tauto

end Request.Adds

/-- Of the actors that are kept a condition more keeps those who meet it. -/
lemma Query.mem_keptIds_of_adds {s : Store} (keyed : s.WellKeyed) {n : Naming} {c : Condition} {r r' : Request}
    (h : r.Adds c r') {q q' : Query} {ladder : Option Ladder} {list : List Need} (built : ofRequest r = .ok q)
    (built' : ofRequest r' = .ok q') (needed : c.needs r.window = .ok list)
    (countsNoLogs : ∀ c' ∈ r'.conditions, ¬ c'.CountsLogs)
    (levelled : ∀ j ∈ q.matching s n.actorTable, ∃ row,
      (RawRow.ofJoined q j).source.withLevels ladder q.plan.levels = .ok row)
    (levelled' : ∀ j ∈ q'.matching s n.actorTable, ∃ row,
      (RawRow.ofJoined q' j).source.withLevels ladder q'.plan.levels = .ok row) {actorId : Int} :
    actorId ∈ q'.keptIds s n.actorTable r' ladder ↔ actorId ∈ q.keptIds s n.actorTable r ladder ∧
      ∃ a ∈ s.actors, a.id = actorId ∧ s.Meets r.window ladder a c := by
  have fewer := (h.forall_conditions.1 countsNoLogs).2
  rw [mem_keptIds_iff keyed built' countsNoLogs levelled', mem_keptIds_iff keyed built fewer levelled, h.columns,
    h.window]
  simp only [h.keeps_iff built built' needed, h.forall_conditions]
  constructor
  · rintro ⟨a, listed, same, ⟨kept, -⟩, passes, meets, others⟩
    exact ⟨⟨a, listed, same, kept, passes, others⟩, a, listed, same, meets⟩
  · rintro ⟨⟨a, listed, same, kept, passes, others⟩, a', listed', same', meets⟩
    obtain rfl : a' = a := List.inj_on_of_nodup_map keyed.actors listed' listed (same'.trans same.symm)
    -- who meets the condition has the rows that it asks for
    exact ⟨a', listed, same, ⟨kept, fun day => Store.hasRowBy_of_meets needed meets⟩, passes, meets, others⟩

/-! ## Answers -/

namespace Service

variable {x : Service} {s : Store} {r r' : Request} {q : Query}

/-- Whether the database runs the query of a request, if there is one. -/
def Takes (x : Service) (r : Request) : Prop :=
  ∀ q, Query.ofRequest r = .ok q → ∃ rows, x.database.execute (x.settings.naming r.wikiId) q = .ok rows

/-- A request that is answered is one whose query the database runs. -/
lemma takes_of_compile {bots : Option (List String)} {clock : List Float} {answer : Answer}
    (h : ((x.compile bots r).run clock).result = .ok answer) : x.Takes r := by
  obtain ⟨ladder, flagless, q, -, -, built, answered⟩ := parts_of_compile h
  intro q' built'
  obtain rfl : q = q' := Except.ok.inj (built.symm.trans built')
  exact executed_of_answer answered

/-- A request without columns is answered with a list of actors. -/
lemma exists_ids_of_compile (stored : x.database.store = some s) (noColumns : r.columns = [])
    {bots : Option (List String)} {clock : List Float} {answer : Answer}
    (h : ((x.compile bots r).run clock).result = .ok answer) : ∃ ids, answer = .ids ids := by
  obtain ⟨ladder, flagless, q, -, -, -, answered⟩ := parts_of_compile h
  rcases cases_of_answer stored answered with ⟨-, -, rfl⟩ | ⟨-, ids, -, rfl⟩ | ⟨columns, -⟩
  · exact ⟨_, rfl⟩
  · exact ⟨_, rfl⟩
  · exact absurd noColumns columns

/-- Such a request that lists some actors is answered with the list of these. -/
lemma eq_ids_of_any (stored : x.database.store = some s) (noColumns : r.columns = []) {bots : Option (List String)}
    {clock : List Float} {ids : List Int}
    (succeeds : (((x.compile bots r).run clock).result.toOption.any fun a => a.actorIds == ids) = true) :
    ((x.compile bots r).run clock).result = .ok (.ids ids) := by
  obtain ⟨answer, compiled, listed⟩ := exists_of_any succeeds
  obtain ⟨ids', rfl⟩ := exists_ids_of_compile stored noColumns compiled
  obtain rfl : ids' = ids := eq_of_beq listed
  exact compiled

/-- Whoever is listed is an actor of the store who passes the filters of all columns. -/
lemma passes_of_compile (stored : x.database.store = some s) (keyed : s.WellKeyed) {bots : Option (List String)}
    {clock : List Float} {answer : Answer} (h : ((x.compile bots r).run clock).result = .ok answer) {id : Int}
    (listed : id ∈ answer.actorIds) : ∃ a ∈ s.actors, a.id = id ∧
      ∀ c ∈ r.columns, s.Passes (x.settings.naming r.wikiId).actorTable r.window c a := by
  obtain ⟨ladder, flagless, q, -, -, built, answered⟩ := parts_of_compile h
  have planned := Query.ofRequest_plan built
  obtain ⟨p, -, made⟩ := bind_eq_ok.1 built
  obtain rfl := Query.plan_of_ofPlan made
  obtain ⟨predicates, -, same⟩ := Query.ofPlan_eq_ok.1 made
  obtain ⟨listing, -⟩ := actorIds_of_answer stored planned answered
  obtain ⟨a, own, matched, -⟩ := (Query.mem_keptIds keyed).1 (listing.subset listed)
  obtain ⟨joined, holds⟩ := Query.mem_matching.1 matched
  refine ⟨a, (keyed.joinedRow_mem_matching.1 matched).1.1, own, (Query.holds_columns_iff keyed planned joined).1 ?_⟩
  intro b asked
  refine holds b ?_
  rw [same]
  exact List.mem_append_left _ asked

/-- The numbers of a query that the database runs are words. -/
lemma fitsWord_of_execute {n : Naming} {rows : List RawRow} (executed : x.database.execute n q = .ok rows) :
    ∀ m ∈ q.parameters, fitsWord m = true := by
  obtain ⟨s, -, executed⟩ := bind_eq_ok.1 executed
  split at executed
  · obtain ⟨_, executed, -⟩ := bind_eq_ok.1 executed
    cases executed
  obtain ⟨_, fits, -⟩ := bind_eq_ok.1 executed
  unfold Database.checkIntegers at fits
  split at fits
  · rename_i all
    exact List.all_eq_true.1 all
  · cases fits

/-- A request with one condition more that is not about levels is answered when the database runs its query. Whoever
it lists meets the condition, and when no number of rows is set, it lists all of the actors listed without the
condition who meet it. -/
theorem answer_of_adds (stored : x.database.store = some s) (keyed : s.WellKeyed)
    (fits : ∀ n ∈ s.integers, fitsWord n = true) {c : Condition} (h : r.Adds c r')
    (countsNoLogs : ∀ c' ∈ r'.conditions, ¬ c'.CountsLogs) (notLevel : c.isLevel = false) {list : List Need}
    (needed : c.needs r.window = .ok list) {predicate : Option Predicate}
    (required : c.predicate? r.window = .ok predicate) (takes : x.Takes r') {bots : Option (List String)}
    {clock : List Float} {answer : Answer} (compiled : ((x.compile bots r).run clock).result = .ok answer) :
    ∃ ladder answer', (x.resources.resolveLadder r).ComesTo ladder ∧ (x.compile bots r').Yields answer' ∧
      answer'.actorIds.Nodup ∧ (∀ b, predicate = some b → ∀ m ∈ b.parameters, fitsWord m = true) ∧
      (∀ id ∈ answer'.actorIds, ∃ a ∈ s.actors, a.id = id ∧ s.Meets r.window ladder a c) ∧
      ((if r.columns = [] then none else r.itemCount.filter (0 < ·)) = none → ∀ id, id ∈ answer'.actorIds ↔
        id ∈ answer.actorIds ∧ ∃ a ∈ s.actors, a.id = id ∧ s.Meets r.window ladder a c) := by
  obtain ⟨ladder, flagless, q, resolved, known, built, answered⟩ := parts_of_compile compiled
  obtain ⟨q', built', own⟩ := h.exists_query built needed required
  obtain ⟨rows, executed⟩ := takes q' built'
  obtain ⟨answer', answered'⟩ : ∃ answer', (x.answer r' q' ladder flagless).Yields answer' :=
    exists_answer_yields keyed fits stored built' executed
  have compiled' : (x.compile bots r').Yields answer' := by
    refine compile_yields ?_ ?_ built' answered'
    · rw [h.resolveLadder notLevel]
      exact Resources.isSteady_resolveLadder _ r _ resolved
    · rw [h.resolveFlaglessBots]
      exact Resources.isSteady_bots _ r bots _ known
  obtain ⟨listing, levelled⟩ := actorIds_of_answer stored (Query.ofRequest_plan built) answered
  obtain ⟨listing', levelled'⟩ := actorIds_of_answer stored (Query.ofRequest_plan built') ⟨[], answered' []⟩
  rw [h.wikiId] at listing' levelled'
  have kept : ∀ id, id ∈ q'.keptIds s (x.settings.naming r.wikiId).actorTable r' ladder ↔
      id ∈ q.keptIds s (x.settings.naming r.wikiId).actorTable r ladder ∧
        ∃ a ∈ s.actors, a.id = id ∧ s.Meets r.window ladder a c :=
    fun _ => Query.mem_keptIds_of_adds keyed h built built' needed countsNoLogs levelled levelled'
  refine ⟨ladder, answer', resolved, compiled', listing'.nodup (Query.nodup_keptIds keyed), fun b some m read => ?_,
    fun id found => ((kept id).1 (listing'.subset found)).2, fun noLimit id => ?_⟩
  · exact fitsWord_of_execute executed m (List.mem_append_right _ (List.mem_flatMap.2 ⟨b, own b some, read⟩))
  · have noLimit' : (if r'.columns = [] then none else r'.itemCount.filter (0 < ·)) = none := by
      rw [h.columns, h.itemCount]
      exact noLimit
    rw [(listing'.perm noLimit').mem_iff, (listing.perm noLimit).mem_iff, kept]

end Service

end ActivityReport
