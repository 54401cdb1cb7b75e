import ActivityReport.Proofs.Report.LevelColumns
import ActivityReport.Proofs.Report.Order
import ActivityReport.Proofs.Sorting.Parts

/-!
# What has no value comes last

Where a column alone puts some rows before all others, sorting by that column first leaves the others for the end
(`pairwise_of_sortRows`). This says two things of a report. In a column that is ordered by what it shows, no missing
value comes before one that is there, in either direction. A level column is ordered by the place of the level on the
ladder instead, which an actor without a level has as well; its rows come in the order of these places
(`Service.nullsLast_of_compile`), and so a missing level may come first (`Service.null_first_of_level`).
-/

namespace ActivityReport

open Traced (ComesTo comesTo_pure)

/-! ## Sorting by one column first -/

namespace Cell

/-- Whether one cell comes before another in a direction, by the comparison of any two cells and by that of the cells of
one family alike. -/
structure Leads (descending : Bool) (a b : Cell) : Prop where
  before : compareCells descending a b = .lt
  after : compareCells descending b a = .gt
  tryBefore : tryCompareCells descending a b = .ok .lt
  tryAfter : tryCompareCells descending b a = .ok .gt

variable {descending : Bool} {a b : Cell} {x y : Option SortValue}

/-- What has a value comes before what has none. -/
lemma leads_null (value : a ≠ null) : a.Leads descending null := by
  have isValue : a.isNull = false := by
    cases a with
    | null => exact absurd rfl value
    | _ => rfl
  have isNull : null.isNull = true := rfl
  constructor <;> simp only [compareCells, tryCompareCells, isValue, isNull]

/-- A cell comes before another when its value does. -/
lemma HasValue.leads (ha : a.HasValue x) (hb : b.HasValue y) (same : ∀ x' ∈ x, ∀ y' ∈ y, x'.family = y'.family)
    (comes : SortValue.Comes descending x y) : a.Leads descending b := by
  have notBack : ¬ SortValue.Comes descending y x := fun back => SortValue.not_comes_self x (comes.trans back)
  have different : x ≠ y := by
    rintro rfl
    exact SortValue.not_comes_self x comes
  obtain ⟨tried, tells⟩ := ha.tryCompareCells descending hb same
  obtain ⟨tried', tells'⟩ := hb.tryCompareCells descending ha fun y' own x' own' => (same x' own' y' own).symm
  have before : compareCells descending a b = .lt := by
    cases order : compareCells descending a b <;> rw [order] at tells
    case eq => exact absurd tells different
    case gt => exact absurd tells notBack
  have after : compareCells descending b a = .gt := by
    cases order : compareCells descending b a <;> rw [order] at tells'
    case lt => exact absurd tells' notBack
    case eq => exact absurd tells' different.symm
  exact ⟨before, after, before ▸ tried, after ▸ tried'⟩

end Cell

section Sorted

variable {key : SortKey} {rest : List SortKey} {rows sorted : List ReportRow}

/-- Where the first column puts all other rows before some, these come last. -/
lemma pairwise_of_sortRows (late : ReportRow → Prop) (leads : ∀ a ∈ rows, ∀ b ∈ rows, ¬ late a → late b →
      (a.rank key.position).Leads key.descending (b.rank key.position))
    (h : sortRows (key :: rest) rows = .ok sorted) : sorted.Pairwise fun a b => late a → late b := by
  unfold sortRows at h
  split at h
  · cases h
    apply Sorting.pairwise_of_mergeSort
    intro a listed b listed' early isLate
    have first := leads a listed b listed' early isLate
    simp only [ReportRow.compare, ReportRow.compareBy, first.before, first.after]
    exact ⟨rfl, rfl⟩
  · refine Sorting.pairwise_of_sort ?_ h
    intro a listed b listed' early isLate
    have first := leads a listed b listed' early isLate
    simp only [ReportRow.tryLess, ReportRow.tryCompareBy, first.tryBefore, first.tryAfter]
    exact ⟨rfl, rfl⟩

/-- Rows without a value in the first column come last. -/
lemma pairwise_null_of_sortRows (h : sortRows (key :: rest) rows = .ok sorted) :
    sorted.Pairwise fun a b => a.rank key.position = .null → b.rank key.position = .null := by
  refine pairwise_of_sortRows (fun row => row.rank key.position = .null) ?_ h
  intro a _ b _ value none
  rw [none]
  exact Cell.leads_null value

/-- Rows that are compared by values of one family in the first column come in the order of these values. -/
lemma pairwise_comes_of_sortRows (value : ReportRow → Option SortValue)
    (values : ∀ row ∈ rows, (row.rank key.position).HasValue (value row))
    (same : ∀ a ∈ rows, ∀ b ∈ rows, ∀ x ∈ value a, ∀ y ∈ value b, x.family = y.family)
    (h : sortRows (key :: rest) rows = .ok sorted) :
    sorted.Pairwise fun a b => ¬ SortValue.Comes key.descending (value b) (value a) := by
  -- the rows that do not come before a given one are a last part; each row is taken for the given one in turn
  have parts : ∀ given ∈ rows, sorted.Pairwise fun a b =>
      ¬ SortValue.Comes key.descending (value a) (value given) →
        ¬ SortValue.Comes key.descending (value b) (value given) := by
    intro given known
    refine pairwise_of_sortRows _ (fun a listed b listed' early late => ?_) h
    refine (values a listed).leads (values b listed') (same a listed b listed') ?_
    have early := not_not.1 early
    rcases SortValue.comes_or_eq_or_comes key.descending (same a listed b listed') with first | equal | later
    · exact first
    · exact absurd (equal ▸ early) late
    · exact absurd (later.trans early) late
  rw [List.pairwise_iff_getElem]
  intro i j iWithin jWithin less
  have known : sorted[i] ∈ rows := (sortRows_perm h).mem_iff.1 (List.getElem_mem iWithin)
  exact List.pairwise_iff_getElem.1 (parts _ known) i j iWithin jWithin less (SortValue.not_comes_self _)

end Sorted

/-! ## From sorted rows to a report -/

/-- What holds of the items of one list in turn holds of what they stand for. -/
lemma pairwise_of_forall₂ {α β : Type} {stands : α → β → Prop} {P : α → α → Prop} {Q : β → β → Prop} {list : List α}
    {list' : List β} (made : List.Forall₂ stands list list')
    (step : ∀ {a b x y}, stands a x → stands b y → P a b → Q x y) (h : list.Pairwise P) : list'.Pairwise Q := by
  have same := made.length_eq
  rw [List.pairwise_iff_getElem] at h ⊢
  intro i j iWithin jWithin less
  have first := made.get (by omega) iWithin
  have second := made.get (by omega) jWithin
  exact step first second (h i j (by omega) (by omega) less)

/-- Whether a row of a report was finished from a row that was sorted. -/
def ActorRow.IsFinishOf (row : ActorRow) (types : List ColumnType) (report : ReportRow) : Prop :=
  ∃ (g : GroupedRow) (number : Cell), g.row = report ∧ number.isNull = false ∧ row = g.finish types number

/-- The rows that are numbered are the first ones, one by one. -/
lemma NumberingRules.exists_forall₂_number (rules : NumberingRules) (lookup : GroupLookup) (batch count : Nat)
    (known : List GroupedRow) (rest : List ReportRow) :
    ∃ first, first <+: known.map GroupedRow.row ++ rest ∧
      List.Forall₂ (fun report row => row.IsFinishOf rules.types report) first
        (rules.number lookup batch count known rest).1 := by
  fun_induction number rules lookup batch count known rest with
  | case1 | case2 | case5 => exact ⟨[], List.nil_prefix, .nil⟩
  | case3 count g known rest notDone passed rows asked found ih
  | case4 count g known rest notDone notPassed rows asked found ih =>
    rw [found] at ih
    obtain ⟨first, start, made⟩ := ih
    exact ⟨g.row :: first, (List.prefix_cons_inj _).2 start, .cons ⟨g, _, rfl, rfl, rfl⟩ made⟩
  | case6 count row rest notDone ids rows asked found ih =>
    have batch : ((row :: rest.take batch).map (GroupedRow.ofLookup (lookup ids))).map GroupedRow.row =
        row :: rest.take batch := by
      rw [List.map_map]
      exact List.map_id _
    rw [found, batch, List.cons_append, List.take_append_drop] at ih
    exact ih

/-- Where the rows of a report come from, in order: some rows get their levels and are sorted, and the report is made of
the first ones. -/
lemma Layout.exists_order_of_report {l : Layout} {r : Request} {rules : NumberingRules} {source : GroupSource}
    {raw : List SourceRow} {rows : List ActorRow}
    (texts : ∀ ids, ∃ groups : Cell → List String, source.lookup ids = fun id => (groups id).map .text)
    (h : (l.report r rules source raw).ComesTo rows) :
    ∃ (groups : Cell → List String) (kept order first : List LevelledRow),
      (∀ row ∈ kept, ∃ source ∈ raw, source.withLevels l.ladder l.levels = .ok row) ∧ order.Perm kept ∧
      sortRows r.sortKeys (kept.map (l.sortedRow r groups)) = .ok (order.map (l.sortedRow r groups)) ∧
      first <+: order ∧
      List.Forall₂ (fun levelled row => row.IsFinishOf rules.types (l.sortedRow r groups levelled)) first rows := by
  obtain ⟨all, levelled, known, rest, ordered, rfl⟩ := stages_of_report h
  obtain ⟨groups, texts⟩ := texts ((all.filter r.keepsLevels).map (·.raw.id))
  have sorts := sortRows_of_ordered texts ordered
  -- the rows that were sorted are made of the levelled ones, in some order
  obtain ⟨order, perm, made⟩ := Service.exists_perm_of_perm_map (sortRows_perm sorts)
  obtain ⟨reports, start, stands⟩ := rules.exists_forall₂_number source.lookup
    (source.stride rest.length - 1) 0 known rest
  rw [made] at sorts start
  obtain ⟨first, initial, rfl⟩ := List.prefix_map_iff.1 start
  refine ⟨groups, _, order, first, ?_, perm, sorts, initial, ?_⟩
  · intro row listed
    exact (mem_of_mapM_eq_ok levelled).1 (List.mem_of_mem_filter listed)
  · exact List.forall₂_map_left_iff.1 stands

/-! ## The columns of a report -/

/-- What rows are ordered by in a level column: the place of the level at its end of the window. -/
def LevelMoment.sortValue (change : LevelChange) : LevelMoment → Option SortValue
  | start => SortValue.ofNumeral (.real change.start.shownSortOrder)
  | finish | finishWithChange | sortOrder => SortValue.ofNumeral (.real change.finish.shownSortOrder)

/-- The place of the number that a row is ordered by in a column, if it is one. -/
def ReportRow.place (row : ReportRow) (i : Nat) : Option SortValue := (row.rank i).number?.bind SortValue.ofNumeral

namespace LevelMoment

variable {moment : LevelMoment} {change : LevelChange}

lemma sortValue_eq : moment.sortValue change = (moment.rank change).number?.bind SortValue.ofNumeral := by
  cases moment <;> rfl

lemma family_sortValue {x : SortValue} (h : moment.sortValue change = some x) : x.family = .number := by
  cases moment <;> exact SortValue.family_ofNumeral h

/-- Measured levels are compared by their places, and all of them have one. -/
lemma hasValue_rank (start : Number.isWithinDoubles change.start.progress = true)
    (finish : Number.isWithinDoubles change.finish.progress = true) :
    (moment.rank change).HasValue (moment.sortValue change) ∧ (moment.sortValue change).isSome = true := by
  have value : (moment.rank change).HasValue (moment.sortValue change) := by
    cases moment with
    | start => exact Cell.hasValue_shownSortOrder start
    | _ => exact Cell.hasValue_shownSortOrder finish
  refine ⟨value, ?_⟩
  cases place : moment.sortValue change with
  | some x => rfl
  | none =>
    rw [place] at value
    have null : moment.rank change = .null := value
    cases moment <;> cases null

end LevelMoment

namespace Service

variable {r : Request} {p : JoinPlan} {q : Query} {ladder : Option Ladder} {groups : Cell → List String}
  {levelled : LevelledRow} {row : ActorRow} {i : Nat} {c : Column}

/-- What a finished row shows in a column is made of what the sorted row has there. -/
lemma exists_getElem?_values (built : Query.ofPlan p r = .ok q) (asked : r.columns[i]? = some c)
    (finished : row.IsFinishOf (r.columns.map Column.type) ((layout r q ladder).sortedRow r groups levelled)) :
    ∃ (g : GroupedRow) (number : Cell) (value : ColumnValue), number.isNull = false ∧
      row.values[i]? = some (g.finishCell number c.type value) ∧
      ((layout r q ladder).sortedRow r groups levelled).rank i = value.rank ∧
      (c.type ≠ .userGroups → value =
        LabelledColumn.value ⟨c, (c.expression? r.window).map fun _ => .column i⟩ r.window levelled) := by
  obtain ⟨g, number, same, numbered, rfl⟩ := finished
  have values := (layout r q ladder).getElem?_values_sortedRow r groups levelled i
  rw [getElem?_columns built, asked, Option.map_some, Option.map_some] at values
  obtain ⟨value, found, own⟩ : ∃ value, ((layout r q ladder).sortedRow r groups levelled).values[i]? = some value ∧
      (c.type ≠ .userGroups → value =
        LabelledColumn.value ⟨c, (c.expression? r.window).map fun _ => .column i⟩ r.window levelled) := by
    refine ⟨_, values, fun noGroups => ?_⟩
    exact if_neg fun both => noGroups both.2
  refine ⟨g, number, value, numbered, ?_, ?_, own⟩
  · rw [GroupedRow.finish, List.getElem?_zipWith, List.getElem?_map, asked, same, found]
    rfl
  · rw [ReportRow.rank, found]
    rfl

/-- A column of row numbers or of groups has a value in every row. -/
lemma ne_null_of_filled (built : Query.ofPlan p r = .ok q) (asked : r.columns[i]? = some c)
    (finished : row.IsFinishOf (r.columns.map Column.type) ((layout r q ladder).sortedRow r groups levelled))
    (filled : c.type = .rowNumber ∨ c.type = .userGroups) : row.values[i]? ≠ some .null := by
  obtain ⟨g, number, value, numbered, shown, -⟩ := exists_getElem?_values built asked finished
  rw [shown]
  intro null
  rcases filled with type | type
  · rw [type] at null
    have null : number = .null := Option.some.inj null
    rw [null] at numbered
    cases numbered
  · rw [type] at null
    cases null

/-- Any other column shows what it is ordered by, unless it shows a level. -/
lemma getElem?_values_eq_rank (built : Query.ofPlan p r = .ok q) (asked : r.columns[i]? = some c)
    (finished : row.IsFinishOf (r.columns.map Column.type) ((layout r q ladder).sortedRow r groups levelled))
    (notFilled : ¬ (c.type = .rowNumber ∨ c.type = .userGroups))
    (noLevel : ∀ moment, c.type = .level moment → moment = .sortOrder) :
    row.values[i]? = some (((layout r q ladder).sortedRow r groups levelled).rank i) := by
  obtain ⟨g, number, value, -, shown, rank, own⟩ := exists_getElem?_values built asked finished
  rw [shown, rank, own fun type => notFilled (Or.inr type), LabelledColumn.value]
  cases type : c.type with
  | rowNumber => exact absurd (Or.inl type) notFilled
  | userGroups => exact absurd (Or.inr type) notFilled
  | level moment =>
    rw [noLevel moment type]
    rfl
  | _ => rfl

/-- A level column is ordered by the level. -/
lemma rank_level (built : Query.ofPlan p r = .ok q) (asked : r.columns[i]? = some c) {moment : LevelMoment}
    (type : c.type = .level moment) :
    ((layout r q ladder).sortedRow r groups levelled).rank i = moment.rank (levelled.change r.window) := by
  have noGroups : ¬ (r.sortsByGroups = true ∧ c.type = .userGroups) := by
    rw [type]
    exact fun both => ColumnType.noConfusion both.2
  rw [Layout.rank_sortedRow, getElem?_columns built, asked, Option.map_some, Option.map_some, Option.getD_some,
    if_neg noGroups, LabelledColumn.value, LabelledColumn.shown, Column.expression?, type]
  cases moment <;> rfl

/-! ## Reports -/

variable {x : Service} {s : Store} {bots : Option (List String)} {clock : List Float} {rows : List ActorRow}
  {key : OrderBy} {rest : List OrderBy}

/-- Where the rows of an answer come from, in order: matching rows get their levels and are sorted, and the answer is
made of the first ones. -/
lemma exists_order_of_compile (stored : x.database.store = some s)
    (h : ((x.compile bots r).run clock).result = .ok (.rows rows)) :
    ∃ ladder p q groups, ((x.resources.resolveLadder r).run clock).result = .ok ladder ∧
      JoinPlan.ofRequest r = .ok p ∧ Query.ofPlan p r = .ok q ∧
      ∃ kept order first : List LevelledRow,
        (∀ row ∈ kept, ∃ j ∈ q.matching s (x.settings.naming r.wikiId).actorTable,
          (RawRow.ofJoined q j).source.withLevels ladder q.plan.levels = .ok row) ∧ order.Perm kept ∧
        sortRows r.sortKeys (kept.map ((layout r q ladder).sortedRow r groups)) =
          .ok (order.map ((layout r q ladder).sortedRow r groups)) ∧
        first <+: order ∧
        List.Forall₂ (fun levelled row => row.IsFinishOf (r.columns.map Column.type)
          ((layout r q ladder).sortedRow r groups levelled)) first rows := by
  obtain ⟨ladder, flagless, p, q, resolved, planned, built, answered⟩ := answer_of_compile h
  obtain ⟨_, reported, same⟩ := report_of_answer stored (columns_of_answer stored answered) answered
  cases same
  obtain ⟨groups, kept, order, first, source, sorted⟩ := Layout.exists_order_of_report (exists_texts s) reported
  refine ⟨ladder, p, q, groups, resolved, planned, built, kept, order, first, ?_, sorted⟩
  intro row listed
  obtain ⟨raw, found, own⟩ := source row listed
  rw [Query.rows, List.map_map] at found
  obtain ⟨j, matched, rfl⟩ := List.mem_map.1 found
  exact ⟨j, matched, own⟩

lemma sortKeys_eq (ordered : r.orderBy = key :: rest) (position : r.position? key.columnId = some i) :
    r.sortKeys = ⟨i, key.descending⟩ :: r.positions rest := by
  rw [← Request.positions_cons_some position, ← ordered]
  rfl

/-- In a column that is ordered by what it shows, no missing value comes before one that is there. -/
lemma pairwise_null_of_compile (stored : x.database.store = some s) (ordered : r.orderBy = key :: rest)
    (position : r.position? key.columnId = some i) (asked : r.columns[i]? = some c)
    (noLevel : ∀ moment, c.type = .level moment → moment = .sortOrder)
    (h : ((x.compile bots r).run clock).result = .ok (.rows rows)) :
    rows.Pairwise fun a b => a.values[i]? = some .null → b.values[i]? = some .null := by
  obtain ⟨ladder, p, q, groups, -, -, built, kept, order, first, -, -, sorted, initial, made⟩ :=
    exists_order_of_compile stored h
  rw [sortKeys_eq ordered position] at sorted
  have nulls := (List.pairwise_map.1 (pairwise_null_of_sortRows sorted)).sublist initial.sublist
  refine pairwise_of_forall₂ made ?_ nulls
  intro levelled levelled' row row' own own' late null
  by_cases filled : c.type = .rowNumber ∨ c.type = .userGroups
  · exact absurd null (ne_null_of_filled built asked own filled)
  · rw [getElem?_values_eq_rank built asked own filled noLevel] at null
    rw [getElem?_values_eq_rank built asked own' filled noLevel]
    exact congrArg some (late (Option.some.inj null))

/-- A row that was finished from a sorted one is of its actor. -/
lemma id_of_isFinishOf {j : JoinedRow}
    (own : (RawRow.ofJoined q j).source.withLevels ladder q.plan.levels = .ok levelled)
    (finished : row.IsFinishOf (r.columns.map Column.type) ((layout r q ladder).sortedRow r groups levelled)) :
    row.id = .int j.actor.id := by
  obtain ⟨g, number, same, -, rfl⟩ := finished
  have id : ((layout r q ladder).sortedRow r groups levelled).id = levelled.raw.id := by
    unfold Layout.sortedRow
    split <;> rfl
  rw [GroupedRow.finish, same, id, SourceRow.raw_of_withLevels own]
  rfl

/-- The levels that a row got have the places of those of its actor. -/
lemma sortValue_change (keyed : s.WellKeyed) (planned : JoinPlan.ofRequest r = .ok q.plan) {n : Naming} {j : JoinedRow}
    (found : j ∈ s.joined n.actorTable q.plan)
    (own : (RawRow.ofJoined q j).source.withLevels ladder q.plan.levels = .ok levelled)
    (asked : r.columns[i]? = some c) {moment : LevelMoment} (type : c.type = .level moment) :
    moment.sortValue (levelled.change r.window) = moment.sortValue (s.levelChange r.window ladder j.actor.id) := by
  have rank := (shown_change keyed planned found own (List.mem_of_getElem? asked) type).2
  rw [LevelMoment.sortValue_eq, LevelMoment.sortValue_eq, rank]

/-- Sorted by a level column first, rows come in the order of the places of their levels. -/
lemma pairwise_places_of_sortRows (built : Query.ofPlan p r = .ok q) (asked : r.columns[i]? = some c)
    {moment : LevelMoment} (type : c.type = .level moment) {descending : Bool} {keys : List SortKey}
    {kept order : List LevelledRow}
    (measured : ∀ levelled ∈ kept, ∀ e, Number.isWithinDoubles (levelled.levelAt e).progress = true)
    (sorted : sortRows (⟨i, descending⟩ :: keys) (kept.map ((layout r q ladder).sortedRow r groups)) =
      .ok (order.map ((layout r q ladder).sortedRow r groups))) :
    order.Pairwise fun a b => ¬ SortValue.Comes descending (moment.sortValue (b.change r.window))
      (moment.sortValue (a.change r.window)) := by
  have place : ∀ levelled : LevelledRow, ((layout r q ladder).sortedRow r groups levelled).place i =
      moment.sortValue (levelled.change r.window) := by
    intro levelled
    rw [ReportRow.place, rank_level built asked type, LevelMoment.sortValue_eq]
  have inOrder := pairwise_comes_of_sortRows (·.place i) ?values ?same sorted
  · simpa only [List.pairwise_map, place] using inOrder
  case values =>
    intro report listed
    obtain ⟨levelled, known, rfl⟩ := List.mem_map.1 listed
    rw [rank_level built asked type, place]
    exact (LevelMoment.hasValue_rank (measured levelled known _) (measured levelled known _)).1
  case same =>
    intro a listed b listed' v own v' own'
    obtain ⟨levelled, -, rfl⟩ := List.mem_map.1 listed
    obtain ⟨levelled', -, rfl⟩ := List.mem_map.1 listed'
    rw [place] at own own'
    rw [LevelMoment.family_sortValue own, LevelMoment.family_sortValue own']

/-- The rows of a report that is ordered by a level column first come in the order of the places of the levels, and each
level has a place. -/
lemma pairwise_places_of_compile (stored : x.database.store = some s) (keyed : s.WellKeyed)
    (ordered : r.orderBy = key :: rest) (position : r.position? key.columnId = some i)
    (asked : r.columns[i]? = some c) {moment : LevelMoment} (type : c.type = .level moment)
    (h : ((x.compile bots r).run clock).result = .ok (.rows rows)) :
    ∃ ladder, ((x.resources.resolveLadder r).run clock).result = .ok ladder ∧
      (∀ row ∈ rows, ∀ m, row.id = .int m →
        (moment.sortValue (s.levelChange r.window ladder m)).isSome = true) ∧
      rows.Pairwise fun a b => ∀ m n, a.id = .int m → b.id = .int n →
        ¬ SortValue.Comes key.descending (moment.sortValue (s.levelChange r.window ladder n))
          (moment.sortValue (s.levelChange r.window ladder m)) := by
  obtain ⟨ladder, p, q, groups, resolved, planned, built, kept, order, first, source, perm, sorted, initial, made⟩ :=
    exists_order_of_compile stored h
  obtain rfl := Query.plan_of_ofPlan built
  rw [sortKeys_eq ordered position] at sorted
  have measured : ∀ levelled ∈ kept, ∀ e, Number.isWithinDoubles (levelled.levelAt e).progress = true := by
    intro levelled listed
    obtain ⟨j, -, own⟩ := source levelled listed
    exact SourceRow.isWithinDoubles_of_withLevels own
  have inOrder := (pairwise_places_of_sortRows built asked type measured sorted).sublist initial.sublist
  -- the levels of the rows are those of the actors
  have actors : List.Forall₂ (fun levelled row => levelled ∈ kept ∧ ∀ m, row.id = .int m →
      moment.sortValue (levelled.change r.window) = moment.sortValue (s.levelChange r.window ladder m)) first rows := by
    have known : ∀ levelled ∈ first, levelled ∈ kept := fun _ listed => perm.subset (initial.subset listed)
    refine List.Forall₂.imp ?_ ((List.forall₂_and_left first rows).2 ⟨known, made⟩)
    rintro levelled row ⟨listed, finished⟩
    refine ⟨listed, fun m id => ?_⟩
    obtain ⟨j, matched, own⟩ := source levelled listed
    obtain rfl : m = j.actor.id := Cell.int.inj (id.symm.trans (id_of_isFinishOf own finished))
    exact sortValue_change keyed planned (Query.mem_matching.1 matched).1 own asked type
  refine ⟨ladder, resolved, ?_, ?_⟩
  · intro row listed m id
    obtain ⟨k, within, rfl⟩ := List.getElem_of_mem listed
    obtain ⟨known, same⟩ := actors.get (actors.length_eq ▸ within) within
    rw [← same m id]
    exact (LevelMoment.hasValue_rank (measured _ known _) (measured _ known _)).2
  · refine pairwise_of_forall₂ actors ?_ inOrder
    rintro levelled levelled' a b ⟨-, own⟩ ⟨-, own'⟩ inOrder m n isA isB
    rw [← own m isA, ← own' n isB]
    exact inOrder

/-- A report that is ordered first by a column that it shows. Unless this is one of the columns of levels, no row
without a value there comes before one with a value, whichever the direction. A column of levels is ordered by the place
of the level on the ladder, which everyone has, also without a level: the rows come in the order of these places, in the
direction that is asked for. -/
theorem nullsLast_of_compile (stored : x.database.store = some s) (ordered : r.orderBy = key :: rest)
    (position : r.position? key.columnId = some i) (asked : r.columns[i]? = some c)
    (h : ((x.compile bots r).run clock).result = .ok (.rows rows)) :
    ((∀ moment, c.type = .level moment → moment = .sortOrder) →
      rows.Pairwise fun a b => a.values[i]? = some .null → b.values[i]? = some .null) ∧
    (s.WellKeyed → ∀ moment, c.type = .level moment →
      ∃ ladder, ((x.resources.resolveLadder r).run clock).result = .ok ladder ∧
        (∀ row ∈ rows, ∃ a ∈ s.actors, row.id = .int a.id ∧
          row.values[i]? = some (moment.shown (s.levelChange r.window ladder a.id)) ∧
          (moment.sortValue (s.levelChange r.window ladder a.id)).isSome = true) ∧
        rows.Pairwise fun a b => ∀ m n, a.id = .int m → b.id = .int n →
          ¬ SortValue.Comes key.descending (moment.sortValue (s.levelChange r.window ladder n))
            (moment.sortValue (s.levelChange r.window ladder m))) := by
  refine ⟨fun noLevel => pairwise_null_of_compile stored ordered position asked noLevel h, ?_⟩
  intro keyed moment type
  obtain ⟨ladder, resolved, placed, inOrder⟩ :=
    pairwise_places_of_compile stored keyed ordered position asked type h
  obtain ⟨ladder', resolved', shows⟩ := rows_of_compile stored keyed h
  obtain rfl := Except.ok.inj (resolved'.symm.trans resolved)
  refine ⟨ladder', resolved, fun row listed => ?_, inOrder⟩
  obtain ⟨a, known, id, cells⟩ := shows row listed
  refine ⟨a, known, id, ?_, placed row listed a.id id⟩
  rw [cells i c asked (by rw [type]; exact ColumnType.noConfusion), Store.shown_level type]

end Service

/-- The cells of an answer that are empty, with the actors. -/
def Answer.gaps : Answer → List (Option Int × List Bool)
  | rows list => list.map fun row => (row.id.int?, row.values.map Cell.isNull)
  | ids _ => []

lemma ActorRow.isNull_iff {row : ActorRow} {i : Nat} :
    (row.values.map Cell.isNull)[i]? = some true ↔ row.values[i]? = some .null := by
  rw [List.getElem?_map, Option.map_eq_some_iff]
  constructor
  · rintro ⟨cell, found, null⟩
    cases cell with
    | null => exact found
    | _ => cases null
  · exact fun found => ⟨.null, found, rfl⟩

/-- The milestones and the levels of actors since June 2023, in the order of one of the two. -/
def Json.ofGaps (first direction : String) : Json :=
  .object [("wikiId", .text "w"), ("columns", .list [
      .object [("columnId", .text "milestone"), ("type", .text "editsSinceRegistrationMilestone"),
        ("milestones", .list [.int 3])],
      .object [("columnId", .text "level"), ("type", .text "levelAtPeriodEnd")]]),
    ("orderBy", .list [.object [("columnId", .text first), ("direction", .text direction)]]),
    ("startDate", .text "2023-06-01"), ("endDate", .text "2023-12-31"),
    ("serviceAwardLevels", .list [.object [("id", .text "bronze"), ("label", .text "Bronze"),
      ("requiredContributions", .int 8), ("requiredActiveDays", .int 4)]])]

/-- By levels the first actor, who has none, comes first. -/
lemma Service.exists_rows_of_levels :
    ∃ r rows c, Payload.readRequest (.ofGaps "level" "asc") = .ok r ∧ r.orderBy = [⟨"level", false⟩] ∧
      r.position? "level" = some 1 ∧ r.columns[1]? = some c ∧ c.type = .level .finish ∧
      ((small.compile none r).run []).result = .ok (.rows rows) ∧
      (Answer.rows rows).gaps = [(some 1, [false, true]), (some 2, [true, false])] := by
  obtain ⟨r, c, parsed, ordered, position, asked, type, succeeds⟩ : ∃ r c,
      Payload.readRequest (.ofGaps "level" "asc") = .ok r ∧ r.orderBy = [⟨"level", false⟩] ∧
      r.position? "level" = some 1 ∧ r.columns[1]? = some c ∧ c.type = .level .finish ∧
      (((small.compile none r).run []).result.toOption.any fun a =>
        a.gaps == [(some 1, [false, true]), (some 2, [true, false])]) = true := by
    refine ⟨_, _, rfl, rfl, rfl, rfl, rfl, ?_⟩
    -- sorting does not compute, sorting in so many steps does
    simp only [compile, guardedAnswer, answer, execute, Database.execute, Query.rows, Query.matching, Layout.report,
      Layout.ordered, sortRows, Sorting.mergeSort_eq_mergeSortWithin]
    decide +kernel
  obtain ⟨rows, compiled, gaps⟩ := Answer.exists_rows_of_any Answer.gaps (fun _ => rfl) succeeds
  exact ⟨r, rows, c, parsed, ordered, position, asked, type, compiled, gaps⟩

/-- By milestones the second actor, who has none, comes last in falling order too. By levels both have a place. -/
theorem Service.nullsLast_of_small :
    Store.small.WellKeyed ∧ ∃ r rows r' rows' ladder,
      Payload.readRequest (.ofGaps "milestone" "desc") = .ok r ∧ r.orderBy = [⟨"milestone", true⟩] ∧
      r.position? "milestone" = some 0 ∧ ((small.compile none r).run []).result = .ok (.rows rows) ∧
      (Answer.rows rows).gaps = [(some 1, [false, true]), (some 2, [true, false])] ∧
      (rows.Pairwise fun a b => a.values[0]? = some .null → b.values[0]? = some .null) ∧
      Payload.readRequest (.ofGaps "level" "asc") = .ok r' ∧ r'.orderBy = [⟨"level", false⟩] ∧
      r'.position? "level" = some 1 ∧ ((small.compile none r').run []).result = .ok (.rows rows') ∧
      ((small.resources.resolveLadder r').run []).result = .ok ladder ∧
      (Answer.rows rows').gaps = [(some 1, [false, true]), (some 2, [true, false])] ∧
      rows'.Pairwise fun a b => ∀ m n, a.id = .int m → b.id = .int n →
        ¬ SortValue.Comes false (LevelMoment.finish.sortValue (Store.small.levelChange r'.window ladder n))
          (LevelMoment.finish.sortValue (Store.small.levelChange r'.window ladder m)) := by
  obtain ⟨r, c, parsed, ordered, position, asked, type, succeeds⟩ : ∃ r c,
      Payload.readRequest (.ofGaps "milestone" "desc") = .ok r ∧ r.orderBy = [⟨"milestone", true⟩] ∧
      r.position? "milestone" = some 0 ∧ r.columns[0]? = some c ∧ c.type = .milestone .edits ∧
      (((small.compile none r).run []).result.toOption.any fun a =>
        a.gaps == [(some 1, [false, true]), (some 2, [true, false])]) = true := by
    refine ⟨_, _, rfl, rfl, rfl, rfl, rfl, ?_⟩
    simp only [compile, guardedAnswer, answer, execute, Database.execute, Query.rows, Query.matching, Layout.report,
      Layout.ordered, sortRows, Sorting.mergeSort_eq_mergeSortWithin]
    decide +kernel
  obtain ⟨rows, compiled, gaps⟩ := Answer.exists_rows_of_any Answer.gaps (fun _ => rfl) succeeds
  obtain ⟨r', rows', c', parsed', ordered', position', asked', type', compiled', gaps'⟩ := exists_rows_of_levels
  obtain ⟨nulls, -⟩ := nullsLast_of_compile (x := small) rfl ordered position asked compiled
  obtain ⟨-, places⟩ := nullsLast_of_compile (x := small) rfl ordered' position' asked' compiled'
  obtain ⟨ladder, resolved, -, inOrder⟩ := places Store.wellKeyed_small _ type'
  have noLevel : ∀ moment, c.type = .level moment → moment = .sortOrder := by
    intro moment isLevel
    rw [type] at isLevel
    cases isLevel
  exact ⟨Store.wellKeyed_small, r, rows, r', rows', ladder, parsed, ordered, position, compiled, gaps, nulls noLevel,
    parsed', ordered', position', compiled', resolved, gaps', inOrder⟩

/-- In rising order of the levels an actor without one comes before one with a level. -/
theorem Service.null_first_of_level :
    Store.small.WellKeyed ∧ ∃ r rows key, Payload.readRequest (.ofGaps "level" "asc") = .ok r ∧ r.orderBy = [key] ∧
      r.position? key.columnId = some 1 ∧ ((small.compile none r).run []).result = .ok (.rows rows) ∧
      ¬ rows.Pairwise fun a b => a.values[1]? = some .null → b.values[1]? = some .null := by
  obtain ⟨r, rows, c, parsed, ordered, position, -, -, compiled, gaps⟩ := exists_rows_of_levels
  refine ⟨Store.wellKeyed_small, r, rows, _, parsed, ordered, position, compiled, fun nulls => ?_⟩
  have inGaps : (Answer.rows rows).gaps.Pairwise fun g g' => g.2[1]? = some true → g'.2[1]? = some true := by
    refine List.pairwise_map.2 (nulls.imp fun later null => ?_)
    exact ActorRow.isNull_iff.2 (later (ActorRow.isNull_iff.1 null))
  rw [gaps] at inGaps
  exact absurd inGaps (by decide)

end ActivityReport
