import ActivityReport.Proofs.Query.Fewer
import ActivityReport.Proofs.Query.Served
import ActivityReport.Proofs.Report.Positive
import Mathlib.Order.Bounds.Defs

/-!
# Days of log events

A column of days of log events asks for the events of several filters. Each filter has a range of its own, and the
column shows the first or the last day of all of them; a filter without events counts as none, and so do all filters
together where nobody has events (`Service.logDates_of_compile`). The ranges of filters drop nobody, so a report with
such columns lists the same actors as one without them.
-/

namespace ActivityReport

/-! ## The edges of days -/

namespace Edge

variable {edge : Edge} {day : Date}

/-- Whether a day is the first or the last one of some days. -/
def IsOf (edge : Edge) (days : Set Date) (day : Date) : Prop :=
  match edge with
  | .first => IsLeast days day
  | .last => IsGreatest days day

lemma isOf_iff {days : Set Date} : edge.IsOf days day ↔ day ∈ days ∧ ∀ d ∈ days, edge.Leads day d := by
  cases edge <;> rfl

lemma Leads.trans {a b c : Date} (h : edge.Leads a b) (k : edge.Leads b c) : edge.Leads a c := by
  cases edge with
  | first => exact Date.le_trans h k
  | last => exact Date.le_trans k h

/-- Among some days there is a first and a last one. -/
lemma exists_ofDays? (edge : Edge) {days : List Date} (listed : day ∈ days) :
    ∃ chosen, edge.ofDays? days = some chosen := by
  cases range : dayRange? days with
  | none =>
    rw [dayRange?_eq_none_iff.1 range] at listed
    cases listed
  | some ends => exact ⟨edge.pick ends, by rw [ofDays?, range, Option.map_some]⟩

/-- The edge of the edges of several lists of days is the edge of all their days. -/
lemma ofDays?_filterMap (lists : List (List Date)) :
    edge.ofDays? (lists.filterMap edge.ofDays?) = edge.ofDays? lists.flatten := by
  refine Option.ext fun day => ?_
  rw [ofDays?_eq_some_iff, ofDays?_eq_some_iff]
  constructor
  · rintro ⟨own, leads⟩
    obtain ⟨list, mem, chosen⟩ := List.mem_filterMap.1 own
    refine ⟨List.mem_flatten.2 ⟨list, mem, (ofDays?_eq_some_iff.1 chosen).1⟩, fun d listed => ?_⟩
    obtain ⟨list', mem', own'⟩ := List.mem_flatten.1 listed
    obtain ⟨chosen', found⟩ := exists_ofDays? edge own'
    have leads' := (ofDays?_eq_some_iff.1 found).2 d own'
    exact (leads chosen' (List.mem_filterMap.2 ⟨list', mem', found⟩)).trans leads'
  · rintro ⟨own, leads⟩
    obtain ⟨list, mem, inList⟩ := List.mem_flatten.1 own
    have chosen : edge.ofDays? list = some day :=
      ofDays?_eq_some_iff.2 ⟨inList, fun d listed => leads d (List.mem_flatten.2 ⟨list, mem, listed⟩)⟩
    refine ⟨List.mem_filterMap.2 ⟨list, mem, chosen⟩, fun d shown => ?_⟩
    obtain ⟨list', mem', found⟩ := List.mem_filterMap.1 shown
    exact leads d (List.mem_flatten.2 ⟨list', mem', (ofDays?_eq_some_iff.1 found).1⟩)

/-- The day that stands for "never" is chosen among copies of itself only, and is then taken away. -/
lemma filter_ofDays?_of_never {days : List Date} (never : ∀ d ∈ days, d = edge.never) :
    (edge.ofDays? days).filter (fun d => !d.isNever) = none := by
  cases chosen : edge.ofDays? days with
  | none => rfl
  | some day =>
    rw [never day (ofDays?_eq_some_iff.1 chosen).1]
    cases edge <;> rfl

end Edge

/-! ## What is shown -/

/-- The days up to a last one on which an actor has log events of some filters, each of which has rows of its own. -/
def Store.logDays (s : Store) (filters : List LogFilter) (finish : Date) (actorId : Int) : Set Date :=
  {day | ∃ f ∈ filters, ∃ row ∈ s.counters, row.subject = some actorId ∧ row.scope = .logged f ∧ row.date = day ∧
    day ≤ finish ∧ 0 < row.daily .logEvents}

namespace Store

variable {s : Store} {actorTable : String} {w : Window} {ladder : Option Ladder} {c : Column} {a : Actor} {edge : Edge}

/-- The days of log events are those on which the actor is active in the sense of one of the filters. -/
lemma mem_logDays {filters : List LogFilter} {finish day : Date} {actorId : Int} :
    day ∈ s.logDays filters finish actorId ↔
      day ∈ (filters.map fun f => s.activeDays ⟨.logFilter f, finish⟩ actorId).flatten := by
  have active : ∀ f, day ∈ s.activeDays ⟨.logFilter f, finish⟩ actorId ↔ ∃ row ∈ s.counters,
      row.subject = some actorId ∧ row.scope = .logged f ∧ row.date = day ∧ day ≤ finish ∧
        0 < row.daily .logEvents := by
    intro f
    simp only [activeDays, rowsOf, List.mem_map, List.mem_filter, Bool.and_eq_true, beq_iff_eq, decide_eq_true_eq,
      RangeSource.scope, RangeSource.counter]
    constructor
    · rintro ⟨row, ⟨⟨listed, subject, scope⟩, positive, le⟩, rfl⟩
      exact ⟨row, listed, subject, scope, rfl, le, of_decide_eq_true positive⟩
    · rintro ⟨row, listed, subject, scope, rfl, le, positive⟩
      exact ⟨row, ⟨⟨listed, subject, scope⟩, decide_eq_true positive, le⟩, rfl⟩
  simp only [List.mem_flatten, List.mem_map, exists_exists_and_eq_and, active]
  rfl

/-- A column of days of log events has the edge of these days for its day. -/
lemma dayOf?_logDate (type : c.type = .logDate edge) : s.dayOf? w c a =
    edge.ofDays? (c.logFilters.map fun f => s.activeDays ⟨.logFilter f, w.finish⟩ a.id).flatten := by
  rw [dayOf?, type, ← Edge.ofDays?_filterMap, List.filterMap_map]
  rfl

/-- An actor has a day for such a column exactly when it is the edge of the days of its log events. -/
lemma dayOf?_eq_some_iff (type : c.type = .logDate edge) {day : Date} :
    s.dayOf? w c a = some day ↔ edge.IsOf (s.logDays c.logFilters w.finish a.id) day := by
  rw [dayOf?_logDate type, Edge.ofDays?_eq_some_iff, Edge.isOf_iff]
  simp only [mem_logDays]

/-- An actor without a day for such a column has no log events. -/
lemma logDays_of_dayOf?_eq_none (type : c.type = .logDate edge) (none : s.dayOf? w c a = none) :
    s.logDays c.logFilters w.finish a.id = ∅ := by
  refine Set.eq_empty_of_forall_notMem fun day own => ?_
  obtain ⟨chosen, found⟩ := edge.exists_ofDays? (mem_logDays.1 own)
  rw [dayOf?_logDate type, found] at none
  cases none

/-- Whoever has no log events is shown without a day, be there one filter or several. -/
lemma shown_logDate_of_none (type : c.type = .logDate edge) (none : s.dayOf? w c a = none) :
    s.shown actorTable w ladder c a = .null := by
  have missing : ∀ f ∈ c.logFilters, s.range? ⟨.logFilter f, w.finish⟩ a.id = .none := by
    intro f asked
    have found := logDays_of_dayOf?_eq_none type none
    refine dayRange?_eq_none_iff.2 (List.eq_nil_iff_forall_not_mem.2 fun day own => ?_)
    have listed : day ∈ s.logDays c.logFilters w.finish a.id :=
      mem_logDays.2 (List.mem_flatten.2 ⟨_, List.mem_map.2 ⟨f, asked, rfl⟩, own⟩)
    rw [found] at listed
    exact listed
  rw [shown_logDate_eq type, Edge.filter_ofDays?_of_never]
  · rfl
  · intro d shown
    obtain ⟨f, asked, rfl⟩ := List.mem_map.1 shown
    rw [missing f asked]
    rfl

end Store

/-! ## Who is listed -/

/-- Whether a column shows a day of log events. -/
def Column.isLogDate (c : Column) : Bool :=
  match c.type with
  | .logDate _ => true
  | _ => false

/-- The request without its columns of days of log events, for all its actors. -/
def Request.withoutLogDates (r : Request) : Request :=
  { r with columns := r.columns.filter fun c => !c.isLogDate, itemCount := none }

namespace Column

variable {c : Column}

lemma exists_edge_of_isLogDate (h : c.isLogDate = true) : ∃ edge, c.type = .logDate edge := by
  unfold isLogDate at h
  split at h
  · exact ⟨_, ‹_›⟩
  · cases h

/-- The filter of such a column drops nobody: where there are no events the day that stands for "never" passes it. -/
lemma passes_of_isLogDate (h : c.isLogDate = true) (s : Store) (actorTable : String) (w : Window) (a : Actor) :
    s.Passes actorTable w c a := by
  obtain ⟨edge, type⟩ := exists_edge_of_isLogDate h
  obtain ⟨f, asked⟩ := List.exists_mem_of_ne_nil _ (logFilters_ne_nil type)
  intro _ e expressed
  rw [expression?, type] at expressed
  obtain rfl := Option.some.inj expressed
  obtain ⟨day, chosen⟩ := edge.exists_ofDays? (List.mem_map.2 ⟨_, List.mem_map.2 ⟨f, asked, rfl⟩, rfl⟩ :
    _ ∈ (c.logFilters.map fun f => (⟨.logFilter f, w.finish⟩ : RangeKey)).map fun key =>
      (((s.joinedRow actorTable (.ofNeeds (c.needs w)) a).range? key).map edge.pick).getD edge.never)
  rw [Expression.eval, chosen]
  rfl

/-- Such a column needs nothing but the ranges of its filters. -/
lemma eq_range_of_isLogDate (h : c.isLogDate = true) {w : Window} {need : Need} (own : need ∈ c.needs w) :
    ∃ f, need = .range ⟨.logFilter f, w.finish⟩ := by
  obtain ⟨edge, type⟩ := exists_edge_of_isLogDate h
  rw [needs, type] at own
  obtain ⟨f, -, rfl⟩ := List.mem_map.1 own
  exact ⟨f, rfl⟩

lemma isLevel_of_isLogDate (h : c.isLogDate = true) : c.isLevel = false := by
  obtain ⟨edge, type⟩ := exists_edge_of_isLogDate h
  rw [isLevel, type]
  rfl

end Column

section

variable {s : Store} {n : Naming} {r : Request} {p p' : JoinPlan}

/-- Some column needs what is no range of a log filter exactly when another kind of column does. -/
lemma Request.mem_needs_withoutLogDates {need : Need} (other : ∀ f day, need ≠ .range ⟨.logFilter f, day⟩) :
    need ∈ r.withoutLogDates.columns.flatMap (·.needs r.window) ↔ need ∈ r.columns.flatMap (·.needs r.window) := by
  rw [List.mem_flatMap, List.mem_flatMap]
  constructor
  · rintro ⟨c, kept, own⟩
    exact ⟨c, List.mem_of_mem_filter kept, own⟩
  · rintro ⟨c, asked, own⟩
    cases isLogDate : c.isLogDate with
    | true =>
      obtain ⟨f, same⟩ := Column.eq_range_of_isLogDate isLogDate own
      exact absurd same (other f _)
    | false => exact ⟨c, List.mem_filter.2 ⟨asked, by rw [isLogDate]; rfl⟩, own⟩

/-- The joins keep the same actors without the columns of days of log events. -/
lemma Store.keeps_withoutLogDates (planned : JoinPlan.ofRequest r = .ok p)
    (planned' : JoinPlan.ofRequest r.withoutLogDates = .ok p') {actorId : Int} :
    s.keeps n.actorTable p' actorId = true ↔ s.keeps n.actorTable p actorId = true := by
  obtain ⟨required, each, rfl⟩ := JoinPlan.ofRequest_eq_ok.1 planned
  obtain ⟨required', each', rfl⟩ := JoinPlan.ofRequest_eq_ok.1 planned'
  obtain rfl : required' = required := Except.ok.inj (each'.symm.trans each)
  have same : ∀ need : Need, (∀ f day, need ≠ .range ⟨.logFilter f, day⟩) →
      (need ∈ r.withoutLogDates.columns.flatMap (·.needs r.window) ++ required'.flatten ↔
        need ∈ r.columns.flatMap (·.needs r.window) ++ required'.flatten) := by
    intro need other
    rw [List.mem_append, List.mem_append, Request.mem_needs_withoutLogDates other]
  have ends : ∀ k, k ∈ (JoinPlan.ofNeeds (r.withoutLogDates.columns.flatMap (·.needs r.window) ++
      required'.flatten)).snapshots ↔
        k ∈ (JoinPlan.ofNeeds (r.columns.flatMap (·.needs r.window) ++ required'.flatten)).snapshots := by
    intro k
    rw [JoinPlan.mem_snapshots_ofNeeds, JoinPlan.mem_snapshots_ofNeeds, same _ fun _ _ => Need.noConfusion]
    refine or_congr_right (exists_congr fun l => ?_)
    rw [same _ fun _ _ => Need.noConfusion]
  have ranges : ∀ activity day, (⟨.activity activity, day⟩ : RangeKey) ∈ (JoinPlan.ofNeeds
      (r.withoutLogDates.columns.flatMap (·.needs r.window) ++ required'.flatten)).ranges ↔
        (⟨.activity activity, day⟩ : RangeKey) ∈
          (JoinPlan.ofNeeds (r.columns.flatMap (·.needs r.window) ++ required'.flatten)).ranges := by
    intro activity day
    rw [JoinPlan.mem_ranges_ofNeeds, JoinPlan.mem_ranges_ofNeeds, same]
    intro f day' equal
    cases equal
  rw [keeps_iff, keeps_iff]
  exact and_congr (forall_congr' fun day => imp_congr_left (ends _))
    (forall₂_congr fun activity day => imp_congr_left (ranges activity day))

/-- The query keeps the same actors without the columns of days of log events. -/
lemma Query.mem_keptIds_withoutLogDates (keyed : s.WellKeyed) {q q' : Query} {ladder : Option Ladder}
    (built : ofRequest r = .ok q) (built' : ofRequest r.withoutLogDates = .ok q')
    (countsNoLogs : ∀ c ∈ r.conditions, ¬ c.CountsLogs)
    (levelled : ∀ j ∈ q.matching s n.actorTable, ∃ row,
      (RawRow.ofJoined q j).source.withLevels ladder q.plan.levels = .ok row)
    (levelled' : ∀ j ∈ q'.matching s n.actorTable, ∃ row,
      (RawRow.ofJoined q' j).source.withLevels ladder q'.plan.levels = .ok row) {actorId : Int} :
    actorId ∈ q'.keptIds s n.actorTable r.withoutLogDates ladder ↔ actorId ∈ q.keptIds s n.actorTable r ladder := by
  have keeps : ∀ actorId, s.keeps n.actorTable q'.plan actorId = true ↔ s.keeps n.actorTable q.plan actorId = true :=
    fun _ => Store.keeps_withoutLogDates (ofRequest_plan built) (ofRequest_plan built')
  have passes : ∀ a, (∀ c ∈ r.withoutLogDates.columns, s.Passes n.actorTable r.window c a) ↔
      ∀ c ∈ r.columns, s.Passes n.actorTable r.window c a := by
    intro a
    refine ⟨fun others c asked => ?_, fun all c kept => all c (List.mem_of_mem_filter kept)⟩
    cases isLogDate : c.isLogDate with
    | true => exact c.passes_of_isLogDate isLogDate s n.actorTable r.window a
    | false => exact others c (List.mem_filter.2 ⟨asked, by rw [isLogDate]; rfl⟩)
  rw [mem_keptIds_iff keyed built' countsNoLogs levelled', mem_keptIds_iff keyed built countsNoLogs levelled]
  refine exists_congr fun a => and_congr_right fun _ => and_congr_right fun _ => ?_
  exact and_congr (keeps a.id) (and_congr_left' (passes a))

end

/-- The ladder is looked for as before. -/
lemma Resources.resolveLadder_withoutLogDates (files : Resources) (r : Request) :
    files.resolveLadder r.withoutLogDates = files.resolveLadder r := by
  have columns : r.withoutLogDates.columns.any Column.isLevel = r.columns.any Column.isLevel := by
    show (r.columns.filter fun c => !c.isLogDate).any Column.isLevel = _
    rw [List.any_filter]
    refine congrArg r.columns.any (funext fun c => ?_)
    cases isLogDate : c.isLogDate with
    | true => rw [Column.isLevel_of_isLogDate isLogDate]; rfl
    | false => rfl
  have needs : r.withoutLogDates.needsLevels = r.needsLevels :=
    congrArg (· || r.conditions.any Condition.isLevel) columns
  unfold resolveLadder
  rw [needs]
  rfl

/-! ## Reports -/

/-- The actors of a list may stand in another order. -/
lemma IsListing.congr {listed all all' : List Int} {limit : Option Nat} (h : IsListing listed all limit)
    (same : all.Perm all') : IsListing listed all' limit := by
  obtain ⟨order, perm, start, whole⟩ := h
  exact ⟨order, perm.trans same, start, whole⟩

namespace Service

variable {x : Service} {s : Store} {r : Request}

/-- In each row of a report on a parsed request each column of days of log events shows the first or the last of the
days on which the actor has events of one of the filters, and nothing exactly when there are none, if all of these
days lie between those that stand for "never". The actors of the report are those of the report without such columns
and without a last number, up to the last number. -/
theorem logDates_of_compile (stored : x.database.store = some s) (keyed : s.WellKeyed) {json : Json}
    (parsed : Payload.readRequest json = .ok r) {bots : Option (List String)} {clock : List Float}
    {rows : List ActorRow} (h : ((x.compile bots r).run clock).result = .ok (.rows rows)) :
    (∀ row ∈ rows, ∃ a ∈ s.actors, row.id = .int a.id ∧ ∀ (i : Nat) (c : Column) (edge : Edge),
      r.columns[i]? = some c → c.type = .logDate edge →
        (∀ day ∈ s.logDays c.logFilters r.window.finish a.id, Date.neverBefore < day ∧ day < Date.neverAfter) →
          (s.logDays c.logFilters r.window.finish a.id = ∅ ∧ row.values[i]? = some .null) ∨
          ∃ day, edge.IsOf (s.logDays c.logFilters r.window.finish a.id) day ∧ row.values[i]? = some (.date day)) ∧
      ∀ bots' clock' answer', ((x.compile bots' r.withoutLogDates).run clock').result = .ok answer' →
        IsListing (Answer.rows rows).actorIds answer'.actorIds (r.itemCount.filter (0 < ·)) := by
  constructor
  · obtain ⟨ladder, -, shows⟩ := rows_of_compile stored keyed h
    intro row own
    obtain ⟨a, known, id, cells⟩ := shows row own
    refine ⟨a, known, id, fun i c edge asked type inside => ?_⟩
    have shown := cells i c asked (by rw [type]; exact ColumnType.noConfusion)
    cases found : s.dayOf? r.window c a with
    | none =>
      rw [Store.shown_logDate_of_none type found] at shown
      exact Or.inl ⟨Store.logDays_of_dayOf?_eq_none type found, shown⟩
    | some day =>
      have chosen := (Store.dayOf?_eq_some_iff type).1 found
      obtain ⟨early, late⟩ := inside day (Edge.isOf_iff.1 chosen).1
      rw [Store.shown_logDate type found early late] at shown
      exact Or.inr ⟨day, chosen, shown⟩
  · intro bots' clock' answer' h'
    obtain ⟨ladder, flagless, q, resolved, -, built, answered⟩ := parts_of_compile h
    obtain ⟨ladder', flagless', q', resolved', -, built', answered'⟩ := parts_of_compile h'
    rw [Resources.resolveLadder_withoutLogDates] at resolved'
    obtain rfl : ladder' = ladder := by
      have same := Resources.isSteady_resolveLadder x.resources r ladder resolved
      obtain ⟨clock, found⟩ := resolved'
      exact Except.ok.inj (found.symm.trans (same clock))
    obtain ⟨listing, levelled⟩ := actorIds_of_answer stored (Query.ofRequest_plan built) answered
    obtain ⟨listing', levelled'⟩ := actorIds_of_answer stored (Query.ofRequest_plan built') answered'
    have all := listing'.perm (by split <;> rfl)
    rw [if_neg (columns_of_answer stored answered)] at listing
    refine listing.congr (List.Perm.trans ?_ all.symm)
    refine (List.perm_ext_iff_of_nodup (Query.nodup_keptIds keyed) (Query.nodup_keptIds keyed)).2 fun id => ?_
    exact (Query.mem_keptIds_withoutLogDates keyed built built' (Payload.not_countsLogs_of_readRequest parsed) levelled
      levelled').symm

end Service

/-! ### An actor with some events -/

/-- An actor with an edit. -/
def Actor.ofLogEvents : Actor := ⟨1, "A", true, none⟩

/-- A store of that actor, with events of two filters on two days and a row without events of a third one. -/
def Store.ofLogEvents : Store where
  actors := [Actor.ofLogEvents]
  counters :=
    [.uniform (some 1) Date.mayFifth 1 0, ⟨some 1, .logged (.ofType "move"), Date.mayFifth, fun _ => 1, fun _ => 0⟩,
     ⟨some 1, .logged (.ofTypeAction "delete" "restore"), Date.juneFifth, fun _ => 1, fun _ => 0⟩,
     ⟨some 1, .logged (.ofAction "rights"), Date.mayFifth, fun _ => 0, fun _ => 1⟩]
  groups := []
  templates := []

/-- The service of that store. -/
def Service.ofLogEvents : Service := { small with database := ⟨"w", some Store.ofLogEvents⟩ }

/-- The first and the last day of events of the three filters, one of which is asked for twice, and the first day of
events of the third one. -/
def Json.ofLogEvents : Json :=
  .object [("wikiId", .text "w"), ("columns", .list
      [.object [("type", .text "userName")],
        .object [("type", .text "firstLogEventDateByType"), ("logFilter", .list filters)],
        .object [("type", .text "lastLogEventDateByType"), ("logFilter", .list filters)],
        .object [("type", .text "firstLogEventDateByType"), ("logFilter", .list [rights])]]),
    ("endDate", .text "2023-12-31")]
where
  rights : Json := .object [("logAction", .text "rights")]
  restore : Json := .object [("logType", .text "delete"), ("logAction", .text "restore")]
  filters : List Json := [rights, restore, .object [("logType", .text "move")], restore]

/-- The first day is that of one filter and the last that of another, the filter without events hides neither, and
alone it shows nothing and drops nobody. -/
theorem Service.logDates_of_three_filters :
    ∃ r rows answer', Payload.readRequest .ofLogEvents = .ok r ∧ Store.ofLogEvents.WellKeyed ∧
      ((ofLogEvents.compile none r).run []).result = .ok (.rows rows) ∧
      ((ofLogEvents.compile none r.withoutLogDates).run []).result = .ok answer' ∧ answer'.actorIds = [1] ∧
      (Answer.rows rows).actorIds = [1] ∧ ∃ row ∈ rows, row.values[1]? = some (.date Date.mayFifth) ∧
        row.values[2]? = some (.date Date.juneFifth) ∧ row.values[3]? = some .null := by
  obtain ⟨r, c₁, c₂, c₃, parsed, noLimit, asked₁, asked₂, asked₃, type₁, type₂, type₃, found₁, found₂, found₃, inside,
      succeeds, succeeds'⟩ : ∃ r c₁ c₂ c₃, Payload.readRequest .ofLogEvents = .ok r ∧ r.itemCount = none ∧
      r.columns[1]? = some c₁ ∧ r.columns[2]? = some c₂ ∧ r.columns[3]? = some c₃ ∧ c₁.type = .logDate .first ∧
      c₂.type = .logDate .last ∧ c₃.type = .logDate .first ∧
      Store.ofLogEvents.dayOf? r.window c₁ Actor.ofLogEvents = some Date.mayFifth ∧
      Store.ofLogEvents.dayOf? r.window c₂ Actor.ofLogEvents = some Date.juneFifth ∧
      Store.ofLogEvents.dayOf? r.window c₃ Actor.ofLogEvents = none ∧
      (∀ row ∈ Store.ofLogEvents.counters, Date.neverBefore < row.date ∧ row.date < Date.neverAfter) ∧
      (((ofLogEvents.compile none r).run []).result.toOption.any fun a => a.actorIds == [1]) = true ∧
      (((ofLogEvents.compile none r.withoutLogDates).run []).result.toOption.any fun a => a.actorIds == [1]) =
        true :=
    ⟨_, _, _, _, rfl, rfl, rfl, rfl, rfl, rfl, rfl, rfl, by decide +kernel, by decide +kernel, by decide +kernel,
      by decide +kernel, by decide +kernel, by decide +kernel⟩
  have keyed : Store.ofLogEvents.WellKeyed := ⟨by decide, by decide, by decide, by decide⟩
  obtain ⟨answer, compiled, listed⟩ := exists_of_any succeeds
  obtain ⟨answer', compiled', listed'⟩ := exists_of_any succeeds'
  obtain ⟨_, rows, -, rfl, -⟩ := shown_of_compile (x := ofLogEvents) rfl keyed (List.ne_nil_of_mem
    (List.mem_of_getElem? asked₁)) compiled
  obtain ⟨shows, listing⟩ := logDates_of_compile (x := ofLogEvents) rfl keyed parsed compiled
  replace listed' := eq_of_beq listed'
  have same := (listing none [] answer' compiled').perm (by rw [noLimit]; rfl)
  rw [listed'] at same
  obtain ⟨row, own, -⟩ := List.mem_filterMap.1 (same.mem_iff.2 (List.mem_singleton_self 1))
  obtain ⟨a, known, -, cells⟩ := shows row own
  obtain rfl : a = Actor.ofLogEvents := List.mem_singleton.1 known
  have between : ∀ filters finish, ∀ day ∈ Store.ofLogEvents.logDays filters finish Actor.ofLogEvents.id,
      Date.neverBefore < day ∧ day < Date.neverAfter := by
    rintro filters finish day ⟨f, -, counted, known, -, -, rfl, -⟩
    exact inside counted known
  -- the edge of the days is the day that is found for the column
  have dated : ∀ {i : Nat} {c : Column} {edge : Edge} {day : Date}, r.columns[i]? = some c → c.type = .logDate edge →
      Store.ofLogEvents.dayOf? r.window c Actor.ofLogEvents = some day → row.values[i]? = some (.date day) := by
    intro i c edge day asked type found
    have edge := (Store.dayOf?_eq_some_iff type).1 found
    rcases cells i c _ asked type (between _ _) with ⟨empty, -⟩ | ⟨day', chosen, shown⟩
    · exact absurd (Edge.isOf_iff.1 edge).1 (Set.eq_empty_iff_forall_notMem.1 empty day)
    · rw [(Store.dayOf?_eq_some_iff type).2 chosen] at found
      obtain rfl := Option.some.inj found
      exact shown
  have undated : row.values[3]? = some .null := by
    rcases cells 3 c₃ _ asked₃ type₃ (between _ _) with ⟨-, shown⟩ | ⟨day', chosen, -⟩
    · exact shown
    · rw [(Store.dayOf?_eq_some_iff type₃).2 chosen] at found₃
      cases found₃
  exact ⟨r, rows, answer', parsed, keyed, compiled, compiled', listed', eq_of_beq listed, row, own,
    dated asked₁ type₁ found₁, dated asked₂ type₂ found₂, undated⟩

end ActivityReport
