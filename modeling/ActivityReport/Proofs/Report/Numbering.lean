import ActivityReport.Proofs.Report.Listed
import ActivityReport.Proofs.Trace.Success

/-!
# Numbers and the end of a report

A look-up that tells of each actor the same, whomever else it is asked for (`GroupLookup.IsOf`), does not show in
the numbering: the rows that come out are those of one pass over rows whose groups are all known
(`NumberingRules.number_eq_finishFrom`). That pass is what the numbers and the end of a report are read off from:
each counted row gets the number of counted rows up to it (`getElem?_finishFrom`), and the rows end with the one that
gets the last number (`endsAfter_finishFrom`).
-/

namespace ActivityReport

open Traced (Yields)

/-! ## Texts among cells -/

namespace Cell

/-- Nothing but a text is the same as it. -/
lemma isSame_text {s : String} {c : Cell} : (text s).isSame c = true ↔ c = text s := by
  cases c <;> simp [isSame, same, quantity?, @eq_comm String s]

/-- A text is the same as nothing else. -/
lemma isSame_text_right {s : String} {c : Cell} : c.isSame (text s) = true ↔ c = text s := by
  cases c <;> simp [isSame, same, quantity?]

end Cell

/-! ## Groups of the actors -/

/-- Whether a look-up tells of each actor the same, whomever else it is asked for. -/
def GroupLookup.IsOf (lookup : GroupLookup) (groupsOf : Cell → List Cell) : Prop :=
  ∀ ids, ∀ id ∈ ids, lookup ids id = groupsOf id

/-- Looked up together, some rows have their own groups. -/
lemma GroupLookup.IsOf.map_ofLookup {lookup : GroupLookup} {groupsOf : Cell → List Cell} (h : lookup.IsOf groupsOf)
    (rows : List ReportRow) :
    rows.map (GroupedRow.ofLookup (lookup (rows.map ReportRow.id))) = rows.map (GroupedRow.ofLookup groupsOf) := by
  refine List.map_congr_left fun row listed => ?_
  rw [GroupedRow.ofLookup, GroupedRow.ofLookup, h _ _ (List.mem_map_of_mem listed)]

/-- The rows with their groups: those whose groups are known, and the others with their own. -/
def GroupedRow.all (groupsOf : Cell → List Cell) (known : List GroupedRow) (rest : List ReportRow) : List GroupedRow :=
  known ++ rest.map (ofLookup groupsOf)

/-- Whether the actor and the name of a row can be looked up among others. -/
structure ReportRow.IsKeyed (row : ReportRow) : Prop where
  id : row.id.keyFault? = none
  name : row.name.keyFault? = none

/-! ## One pass over rows with groups -/

namespace NumberingRules

/-- Whether a row gets a number and is not passed over. -/
def counts (rules : NumberingRules) (g : GroupedRow) : Bool := !rules.passes g.groups g.row.name

/-- The count of rows after one more. -/
def next (rules : NumberingRules) (count : Nat) (g : GroupedRow) : Nat := if rules.counts g then count + 1 else count

/-- What stands in place of a number that the count has come to. -/
def given (rules : NumberingRules) (count : Nat) (g : GroupedRow) : Cell :=
  if rules.counts g then .int count else .text ""

/-- The finished rows, numbered from a count on, when the groups of all are known. -/
def finishFrom (rules : NumberingRules) (count : Nat) : List GroupedRow → List ActorRow
  | [] => []
  | g :: rest =>
    if rules.isDone count then []
    else g.finish rules.types (rules.given (rules.next count g) g) :: rules.finishFrom (rules.next count g) rest

variable {rules : NumberingRules} {lookup : GroupLookup} {groupsOf : Cell → List Cell} {batch count k : Nat}
  {known : List GroupedRow} {rest : List ReportRow} {rows : List GroupedRow}

/-- Rows are counted one by one. -/
lemma countP_cons (g : GroupedRow) (rows : List GroupedRow) :
    count + (g :: rows).countP rules.counts = rules.next count g + rows.countP rules.counts := by
  rw [List.countP_cons, next]
  split <;> omega

/-- In batches or in one pass, the rows are finished alike. -/
theorem number_eq_finishFrom (h : lookup.IsOf groupsOf) :
    (rules.number lookup batch count known rest).1 =
      rules.finishFrom count (GroupedRow.all groupsOf known rest) := by
  unfold GroupedRow.all
  fun_induction number rules lookup batch count known rest with
  | case1 => rfl
  | case2 count g known rest done => rw [List.cons_append, finishFrom, if_pos done]
  | case3 count g known rest notDone passed rows asked found ih =>
    rw [found] at ih
    rw [List.cons_append, finishFrom, if_neg notDone, next, given, counts, passed]
    exact congrArg (g.finish rules.types (.text "") :: ·) ih
  | case4 count g known rest notDone notPassed rows asked found ih =>
    rw [found] at ih
    rw [List.cons_append, finishFrom, if_neg notDone, next, given, counts, Bool.eq_false_iff.2 notPassed]
    exact congrArg (g.finish rules.types (.int (count + 1 : Nat)) :: ·) ih
  | case5 count first rest done => rw [List.map_cons, List.nil_append, finishFrom, if_pos done]
  | case6 count first rest notDone ids rows asked found ih =>
    rw [found, h.map_ofLookup, ← List.map_append, List.cons_append, List.take_append_drop] at ih
    exact ih

/-- A finished row is the one at its place, and its number is the count up to it. -/
lemma getElem?_finishFrom {i : Nat} (within : i < (rules.finishFrom count rows).length) :
    ∃ g, rows[i]? = some g ∧ (rules.finishFrom count rows)[i]? =
      some (g.finish rules.types (rules.given (count + (rows.take (i + 1)).countP rules.counts) g)) := by
  induction rows generalizing count i with
  | nil => cases within
  | cons g rest ih =>
    rw [finishFrom] at within ⊢
    split at within
    · cases within
    · rename_i notDone
      rw [if_neg notDone, List.take_succ_cons, countP_cons]
      cases i with
      | zero => exact ⟨g, rfl, rfl⟩
      | succ i => exact ih (Nat.lt_of_succ_lt_succ within)

/-- Without a limit all rows are finished. -/
lemma length_finishFrom_of_no_limit (noLimit : rules.limit = none) :
    (rules.finishFrom count rows).length = rows.length := by
  induction rows generalizing count with
  | nil => rfl
  | cons g rest ih => 
    rw [finishFrom, isDone, noLimit, Option.any_none, if_neg Bool.false_ne_true, List.length_cons, ih, List.length_cons]

/-- With a limit either there are fewer counted rows, and all rows are finished, or the last row that is finished is
the one that is counted up to it; there is none when the count has been that far before. -/
lemma length_finishFrom (limited : rules.limit = some k) (within : count ≤ k) :
    count + rows.countP rules.counts < k ∧ (rules.finishFrom count rows).length = rows.length ∨
    count + (rows.take (rules.finishFrom count rows).length).countP rules.counts = k ∧
      ((rules.finishFrom count rows).length = 0 ∨ ∃ i g, (rules.finishFrom count rows).length = i + 1 ∧
        rows[i]? = some g ∧ rules.counts g = true) := by
  induction rows generalizing count with
  | nil =>
    rw [finishFrom, List.length_nil, List.take_nil, List.countP_nil]
    rcases within.lt_or_eq with fewer | done
    · exact Or.inl ⟨fewer, rfl⟩
    · exact Or.inr ⟨done, Or.inl rfl⟩
  | cons g rest ih =>
    have done : rules.isDone count = decide (k ≤ count) := by rw [isDone, limited, Option.any_some]
    rw [finishFrom, done]
    rcases within.lt_or_eq with more | rfl
    · have nextWithin : rules.next count g ≤ k := by
        rw [next]
        split <;> omega
      rw [if_neg (by simpa using more), List.length_cons, List.take_succ_cons, countP_cons, countP_cons, List.length_cons]
      rcases ih nextWithin with ⟨fewer, all⟩ | ⟨last, ends⟩
      · exact Or.inl ⟨fewer, congrArg (· + 1) all⟩
      · refine Or.inr ⟨last, Or.inr ?_⟩
        rcases ends with none | ⟨i, g', length, found, counted⟩
        · -- no row is left, so it is this one that the count ends with
          rw [none, List.take_zero, List.countP_nil] at last
          refine ⟨0, g, by rw [none], rfl, ?_⟩
          by_contra passed
          rw [next, if_neg passed] at last
          omega
        · exact ⟨i + 1, g', by rw [length], found, counted⟩
    · rw [if_pos (by simp)]
      exact Or.inr ⟨rfl, Or.inl rfl⟩

/-- With a looser limit the report goes on with the same rows. -/
lemma finishFrom_isPrefix {rules' : NumberingRules} (types : rules'.types = rules.types)
    (counts : rules'.counts = rules.counts) (looser : ∀ count, rules'.isDone count = true → rules.isDone count = true) :
    rules.finishFrom count rows <+: rules'.finishFrom count rows := by
  induction rows generalizing count with
  | nil => exact List.prefix_refl _
  | cons g rest ih =>
    rw [finishFrom, finishFrom]
    split
    · exact List.nil_prefix
    · rename_i notDone
      have same : rules'.next count g = rules.next count g := by rw [next, next, counts]
      rw [if_neg fun done => notDone (looser count done), types, same, given, given, counts, List.prefix_cons_inj]
      exact ih

/-! ## Looking up -/

/-- Before the last number is given a row whose groups are known comes out. -/
lemma number_pos (lookup : GroupLookup) (batch : Nat) (g : GroupedRow) (known : List GroupedRow)
    (rest : List ReportRow) (notDone : ¬ rules.isDone count = true) :
    0 < (rules.number lookup batch count (g :: known) rest).1.length := by
  rw [number, if_neg notDone]
  split <;> exact Nat.succ_pos _

/-- The batches of some rows are one and those of the rows after it. -/
lemma batches_succ {m : Nat} (some : 0 < m) : (m + batch) / (batch + 1) * (batch + 1) =
    batch + 1 + (m - (batch + 1) + batch) / (batch + 1) * (batch + 1) := by
  have others : (m - (batch + 1) + batch) / (batch + 1) = (m - 1) / (batch + 1) := by
    rcases le_or_gt (batch + 1) m with whole | part
    · rw [show m - (batch + 1) + batch = m - 1 by omega]
    · rw [Nat.div_eq_of_lt (by omega), Nat.div_eq_of_lt (by omega)]
  rw [others, show m + batch = m - 1 + (batch + 1) by omega, Nat.add_div_right _ (Nat.succ_pos _), Nat.succ_mul,
    Nat.add_comm]

/-- Batches are asked for as far as the rows reach that come out. -/
lemma flatten_asked : (rules.number lookup batch count known rest).2.flatten =
    (rest.map ReportRow.id).take
      (((rules.number lookup batch count known rest).1.length - known.length + batch) / (batch + 1) * (batch + 1)) := by
  have none : (0 + batch) / (batch + 1) * (batch + 1) = 0 := by
    rw [Nat.zero_add, Nat.div_eq_of_lt (Nat.lt_succ_self _), Nat.zero_mul]
  fun_induction number rules lookup batch count known rest with
  | case1 => rw [List.map_nil, List.take_nil, List.flatten_nil]
  | case2 count g known rest done =>
    rw [List.length_nil, Nat.zero_sub, none]
    rfl
  | case5 count first rest done =>
    rw [List.length_nil, Nat.zero_sub, none]
    rfl
  | case3 count g known rest notDone passed rows asked found ih
  | case4 count g known rest notDone passed rows asked found ih =>
    rw [found] at ih
    rw [List.length_cons, List.length_cons, Nat.add_sub_add_right]
    exact ih
  | case6 count first rest notDone ids rows asked found ih =>
    have reached := number_pos lookup batch (GroupedRow.ofLookup (lookup ids) first)
      ((rest.take batch).map (GroupedRow.ofLookup (lookup ids))) (rest.drop batch) notDone
    rw [found] at ih
    rw [← List.map_cons, found] at reached
    have own : ids = ((first :: rest).map ReportRow.id).take (batch + 1) := by
      rw [← List.map_take, List.take_succ_cons]
    have later : (rest.drop batch).map ReportRow.id = ((first :: rest).map ReportRow.id).drop (batch + 1) := by
      rw [← List.map_drop, List.drop_succ_cons]
    rw [List.flatten_cons, ih, later, List.length_nil, Nat.sub_zero, batches_succ reached,
      List.take_add (i := batch + 1), ← own, List.length_map, List.length_cons, List.length_take]
    -- the batch is a whole one, or nobody is left to be asked for
    rcases le_or_gt batch rest.length with whole | part
    · rw [Nat.min_eq_left whole]
    · rw [List.drop_eq_nil_of_le (by rw [List.length_map, List.length_cons]; omega), List.take_nil, List.take_nil]

/-- The actors that are looked up are the first of those whose groups are not known. -/
lemma flatten_asked_isPrefix :
    (rules.number lookup batch count known rest).2.flatten <+: rest.map ReportRow.id := by
  rw [flatten_asked]
  exact List.take_prefix _ _

lemma length_number_le : (rules.number lookup batch count known rest).1.length ≤ known.length + rest.length := by
  have same : (rules.number lookup batch count known rest).1.length =
      ((rules.number lookup batch count known rest).1.map ActorRow.id).length := List.length_map _ |>.symm
  rw [same]
  refine ids_prefix.length_le.trans_eq ?_
  rw [List.length_append, List.length_map, List.length_map]

lemma keyFault?_eq_none {made : Nat} {asked : List (List Cell)} {rows : List ActorRow}
    (ids : ∀ id ∈ asked.flatten, id.keyFault? = none) (names : ∀ row ∈ rows, row.name.keyFault? = none) :
    rules.keyFault? made asked rows = none := by
  have noName : ∀ rows' ⊆ rows, rows'.findSome? rules.nameFault? = none := by
    refine fun rows' sub => List.findSome?_eq_none_iff.2 fun row listed => ?_
    rw [nameFault?, names row (sub listed), ite_self]
  induction asked generalizing made rows with
  | nil => rw [keyFault?, noName rows (List.Subset.refl _), Option.map_none]
  | cons first asked ih =>
    rw [List.flatten_cons] at ids
    have noId : first.findSome? Cell.keyFault? = none :=
      List.findSome?_eq_none_iff.2 fun id listed => ids id (List.mem_append_left _ listed)
    rw [keyFault?, noId, noName _ (List.take_subset _ _)]
    exact ih (fun id listed => ids id (List.mem_append_right _ listed))
      (fun row listed => names row (List.drop_subset _ _ listed))
      fun rows' sub => noName rows' (List.Subset.trans sub (List.drop_subset _ _))

end NumberingRules

lemma GroupSource.note_yields (groups : GroupSource) (asked : List (List Cell)) : (groups.note asked).Yields () :=
  fun _ => rfl

namespace GroupSource

variable {groups : GroupSource}

lemma fallsShort_eq_false (sized : 0 < groups.size) {n reached : Nat} (within : reached ≤ n) :
    groups.fallsShort n reached = false := by
  rw [fallsShort, reach, if_pos sized, Bool.and_eq_false_iff, decide_eq_false_iff_not, decide_eq_false_iff_not]
  omega

end GroupSource

namespace NumberingRules

variable {rules : NumberingRules} {lookup : GroupLookup} {groups : GroupSource} {batch count : Nat}
  {known : List GroupedRow} {rest : List ReportRow}

/-- With a positive size no row is out of reach, when groups either of no row are known before or of all. -/
lemma fallsShort_number (sized : 0 < groups.size) (whole : known = [] ∨ rest = []) :
    groups.fallsShort rest.length (rules.number lookup batch count known rest).1.length = false := by
  rcases whole with rfl | rfl
  · refine GroupSource.fallsShort_eq_false sized (length_number_le.trans ?_)
    rw [List.length_nil, Nat.zero_add]
  · rfl

/-- Rows are numbered without a failure when actors and names can be looked up, and groups either of no row are
known before or of all. -/
lemma apply_yields (sized : 0 < groups.size) (whole : known = [] ∨ rest = [])
    (keyed : ∀ row ∈ known.map (·.row) ++ rest, row.IsKeyed) (bots : ∀ name ∈ rules.bots, name.keyFault? = none) :
    (rules.apply groups known rest).Yields
      (rules.number groups.lookup (groups.stride rest.length - 1) 0 known rest).1 := by
  have ids : ∀ id ∈ (rules.number groups.lookup (groups.stride rest.length - 1) 0 known rest).2.flatten,
      id.keyFault? = none := by
    intro id asked
    obtain ⟨row, listed, rfl⟩ := List.mem_map.1 (List.IsPrefix.subset flatten_asked_isPrefix asked)
    exact (keyed row (List.mem_append_right _ listed)).id
  have names : ∀ row ∈ (rules.number groups.lookup (groups.stride rest.length - 1) 0 known rest).1,
      row.name.keyFault? = none := by
    intro row listed
    obtain ⟨g, number, rfl, isKnown | ⟨inRest, -⟩⟩ := exists_lookedUp_of_mem_number listed
    · exact (keyed g.row (List.mem_append_left _ (List.mem_map_of_mem isKnown))).name
    · exact (keyed g.row (List.mem_append_right _ inRest)).name
  unfold apply
  rw [List.findSome?_eq_none_iff.2 bots]
  refine (Yields.pure ()).bind ?_
  simp only [fallsShort_number sized whole, Bool.false_eq_true, if_false, keyFault?_eq_none ids names, Bool.false_and]
  exact (groups.note_yields _).bind (Yields.pure _)

/-- What comes out is one pass over the rows with their groups. -/
lemma apply_yields_finishFrom (sized : 0 < groups.size) {groupsOf : Cell → List Cell}
    (own : groups.lookup.IsOf groupsOf) (whole : known = [] ∨ rest = [])
    (keyed : ∀ row ∈ known.map (·.row) ++ rest, row.IsKeyed) (bots : ∀ name ∈ rules.bots, name.keyFault? = none) :
    (rules.apply groups known rest).Yields (rules.finishFrom 0 (GroupedRow.all groupsOf known rest)) := by
  rw [← number_eq_finishFrom own]
  exact apply_yields sized whole keyed bots

end NumberingRules

namespace Layout

variable {l : Layout} {r : Request} {rules : NumberingRules} {groups : GroupSource} {raw : List SourceRow}

/-- Rows that can be sorted come into order without groups when no group is needed for it. -/
lemma ordered_yields (noSort : r.sortsByGroups = false) {reports sorted : List ReportRow}
    (inOrder : sortRows r.sortKeys reports = .ok sorted) : (l.ordered r groups reports).Yields ([], sorted) := by
  unfold ordered
  rw [noSort, Bool.false_and, if_neg Bool.false_ne_true]
  exact (Yields.logAll _).bind ((Yields.result (mapError_eq_ok.2 inOrder)).bind (.pure _))

/-- A report whose rows get their levels, labels and order is those rows with their numbers. -/
lemma report_yields (sized : 0 < groups.size) {kept : List LevelledRow} {known : List GroupedRow}
    {rest : List ReportRow} (levelled : (l.levelled r raw).Yields kept) (labelled : l.lacksLabels r = false)
    (ordered : (l.ordered r groups (kept.map (·.report l r.window))).Yields (known, rest))
    (whole : known = [] ∨ rest = []) (keyed : ∀ row ∈ known.map (·.row) ++ rest, row.IsKeyed)
    (bots : ∀ name ∈ rules.bots, name.keyFault? = none) :
    (l.report r rules groups raw).Yields
      (rules.number groups.lookup (groups.stride rest.length - 1) 0 known rest).1 := by
  unfold report
  refine levelled.bind ?_
  rw [labelled, if_neg Bool.false_ne_true]
  refine ordered.bind ((rules.apply_yields sized whole keyed bots).bind ((Yields.logAll _).bind ?_))
  rw [rules.fallsShort_number sized whole, if_neg Bool.false_ne_true]
  exact .pure _

end Layout

/-! ## The end of a report -/

/-- Where a report on some rows ends, given which of them count and the number of items asked for: with the row that
gets the last number, or with the last row where there are fewer or no number is the last one. -/
inductive EndsAfter (counts : GroupedRow → Bool) (rows : List GroupedRow) : Option Nat → Nat → Prop where
  | unlimited : EndsAfter counts rows none rows.length
  | zero : EndsAfter counts rows (some 0) rows.length
  | fewer {k : Nat} (few : rows.countP counts < k) : EndsAfter counts rows (some k) rows.length
  | last {k i : Nat} {g : GroupedRow} (found : rows[i]? = some g) (counted : counts g = true)
      (number : (rows.take (i + 1)).countP counts = k) : EndsAfter counts rows (some k) (i + 1)

namespace EndsAfter

variable {counts : GroupedRow → Bool} {rows : List GroupedRow} {limit : Option Nat} {m m' : Nat}

lemma countP_lt {i j : Nat} (before : i < j) {g : GroupedRow} (found : rows[j]? = some g) (counted : counts g = true) :
    (rows.take (i + 1)).countP counts < (rows.take (j + 1)).countP counts := by
  have upTo : (rows.take (i + 1)).countP counts ≤ (rows.take j).countP counts :=
    (List.take_sublist_take_left before).countP_le
  rw [List.take_add_one (l := rows) (i := j), found, List.countP_append, Option.toList_some, List.countP_singleton,
    if_pos counted]
  omega

/-- There is one end. -/
lemma unique (h : EndsAfter counts rows limit m) (h' : EndsAfter counts rows limit m') : m = m' := by
  have count_le : ∀ i, (rows.take (i + 1)).countP counts ≤ rows.countP counts :=
    fun i => (List.take_sublist _ _).countP_le
  have counted_pos : ∀ {i g}, rows[i]? = some g → counts g = true → 0 < (rows.take (i + 1)).countP counts :=
    fun found counted => List.countP_pos_iff.2
      ⟨_, List.mem_of_getElem? (List.getElem?_take_of_lt (Nat.lt_succ_self _) ▸ found), counted⟩
  cases h with
  | unlimited => cases h'; rfl
  | zero =>
    cases h' with
    | zero | fewer => rfl
    | last found counted number => exact absurd number (counted_pos found counted).ne'
  | fewer few =>
    cases h' with
    | zero | fewer => rfl
    | @last _ i _ found counted number => exact absurd (number ▸ count_le i) (not_le.2 few)
  | @last k i g found counted number =>
    cases h' with
    | zero => exact absurd number (counted_pos found counted).ne'
    | fewer few => exact absurd (number ▸ count_le i) (not_le.2 few)
    | @last _ j g' found' counted' number' =>
      rcases lt_trichotomy i j with before | rfl | after
      · exact absurd (number.trans number'.symm) (countP_lt before found' counted').ne
      · rfl
      · exact absurd (number'.trans number.symm) (countP_lt after found counted).ne

end EndsAfter

namespace NumberingRules

variable {rules rules' : NumberingRules} {count : Nat} {rows : List GroupedRow}

/-- One pass over rows ends where their report does. -/
lemma endsAfter_finishFrom {itemCount : Option Nat} (limit : rules.limit = itemCount.filter (0 < ·))
    (rows : List GroupedRow) : EndsAfter rules.counts rows itemCount (rules.finishFrom 0 rows).length := by
  cases itemCount with
  | none =>
    rw [length_finishFrom_of_no_limit limit]
    exact .unlimited
  | some k =>
    rcases Nat.eq_zero_or_pos k with rfl | positive
    · rw [length_finishFrom_of_no_limit limit]
      exact .zero
    · rw [Option.filter_some_pos (p := fun n => decide (0 < n)) (decide_eq_true positive)] at limit
      rcases @length_finishFrom rules 0 k rows limit (Nat.zero_le k) with
        ⟨fewer, all⟩ | ⟨last, none | ⟨i, g, ends, found, counted⟩⟩
      · rw [all]
        exact .fewer (by rwa [Nat.zero_add] at fewer)
      · rw [none, List.take_zero, List.countP_nil] at last
        omega
      · rw [ends, Nat.zero_add] at last
        rw [ends]
        exact .last found counted last

end NumberingRules

/-- Whether a finished row is that of a row with groups and a number: columns of numbers and of groups are filled in,
and nothing else is changed. -/
structure ActorRow.Finishes (row : ActorRow) (columns : List Column) (g : GroupedRow) (number : Cell) : Prop where
  id : row.id = g.row.id
  name : row.name = g.row.name
  groups : row.groups = g.groups
  length : row.values.length = min columns.length g.row.values.length
  numbers : ∀ (i : Nat) (c : Column) v, columns[i]? = some c → g.row.values[i]? = some v → c.type = .rowNumber →
    row.values[i]? = some number
  lists : ∀ (i : Nat) (c : Column) v, columns[i]? = some c → g.row.values[i]? = some v → c.type = .userGroups →
    row.values[i]? = some (.list g.groups)
  others : ∀ (i : Nat) (c : Column) v, columns[i]? = some c → g.row.values[i]? = some v → c.type ≠ .rowNumber →
    c.type ≠ .userGroups → row.values[i]? = some v.shown

/-- Finishing a row fills in its number and its groups. -/
lemma GroupedRow.finishes_finish (g : GroupedRow) (columns : List Column) (number : Cell) :
    (g.finish (columns.map Column.type) number).Finishes columns g number := by
  have cell : ∀ (i : Nat) (c : Column) v, columns[i]? = some c → g.row.values[i]? = some v →
      (g.finish (columns.map Column.type) number).values[i]? = some (g.finishCell number c.type v) := by
    intro i c v column value
    rw [finish, List.getElem?_zipWith, List.getElem?_map, column, value]
    rfl
  refine ⟨rfl, rfl, rfl, ?_, ?_, ?_, ?_⟩
  · rw [finish, List.length_zipWith, List.length_map]
  · intro i c v column value type
    rw [cell i c v column value, type, finishCell]
  · intro i c v column value type
    rw [cell i c v column value, type, finishCell]
  · intro i c v column value noNumber noGroups
    rw [cell i c v column value, finishCell] <;> assumption

namespace Request

/-- The request for another number of items. -/
def withItemCount (r : Request) (itemCount : Option Nat) : Request := { r with itemCount := itemCount }

/-- Whether a row of the report on a request counts, given the group of bots and the names of others. -/
def counts (r : Request) (botGroup : String) (bots : List String) (g : GroupedRow) : Bool :=
  (r.numbering botGroup (bots.map .text)).counts g

variable {r : Request} {botGroup : String} {bots : List String}

/-- A row does not count exactly when bots are to be skipped and it is in their group or has one of the names given
for them. -/
lemma counts_eq_false {g : GroupedRow} : r.counts botGroup bots g = false ↔
    r.skipBots = true ∧ (.text botGroup ∈ g.groups ∨ g.row.name ∈ bots.map .text) := by
  have inGroup : g.groups.any (Cell.text botGroup).isSame = true ↔ .text botGroup ∈ g.groups := by
    simp only [List.any_eq_true, Cell.isSame_text, exists_eq_right]
  have named : (bots.map .text).any g.row.name.isSame = true ↔ g.row.name ∈ bots.map .text := by
    simp only [List.any_eq_true, List.mem_map, exists_exists_and_eq_and, Cell.isSame_text_right,
      @eq_comm Cell g.row.name]
  rw [counts, NumberingRules.counts, NumberingRules.passes, Bool.not_eq_false', Bool.and_eq_true, Bool.or_eq_true]
  exact and_congr Iff.rfl (or_congr inGroup named)

/-- The last of some numbers has been given when the count has come to it. -/
lemma isDone_numbering {k count : Nat} (positive : 0 < k) :
    ((r.withItemCount (some k)).numbering botGroup (bots.map .text)).isDone count = decide (k ≤ count) := by
  have limit : ((r.withItemCount (some k)).numbering botGroup (bots.map .text)).limit = some k :=
    Option.filter_some_pos (p := fun n => decide (0 < n)) (decide_eq_true positive)
  rw [NumberingRules.isDone, limit, Option.any_some]

/-- How the rows of a request are numbered, and where they end. A row is passed over exactly when bots are to be
skipped and it is in their group or has one of the names given for them. For any number of items the rows come out up
to the one that is the last by `EndsAfter`; each has in its columns of numbers the count of the rows up to it that
are not passed over, or an empty text if it is, its groups in the columns of groups, and is otherwise what it was. A
smaller number of items gives a prefix of the rows for a larger one, and any number a prefix of those without an end;
0 sets no end. -/
theorem finished_of_numbering (r : Request) (botGroup : String) (bots : List String) {groups : GroupSource}
    (sized : 0 < groups.size) {groupsOf : Cell → List Cell} (own : groups.lookup.IsOf groupsOf)
    {known : List GroupedRow} {rest : List ReportRow} (whole : known = [] ∨ rest = [])
    (keyed : ∀ row ∈ known.map (·.row) ++ rest, row.IsKeyed) :
    (∀ g, r.counts botGroup bots g = false ↔
      r.skipBots = true ∧ (.text botGroup ∈ g.groups ∨ g.row.name ∈ bots.map .text)) ∧
    ∃ finished : Option Nat → List ActorRow,
      (∀ k, (((r.withItemCount k).numbering botGroup (bots.map .text)).apply groups known rest).Yields
        (finished k)) ∧
      (∀ k, EndsAfter (r.counts botGroup bots) (GroupedRow.all groupsOf known rest) k (finished k).length) ∧
      (∀ k i, i < (finished k).length → ∃ g row, (GroupedRow.all groupsOf known rest)[i]? = some g ∧
        (finished k)[i]? = some row ∧ row.Finishes r.columns g
          (if r.counts botGroup bots g then
            .int (((GroupedRow.all groupsOf known rest).take (i + 1)).countP (r.counts botGroup bots))
          else .text "")) ∧
      (∀ k k', 0 < k → k ≤ k' → finished (some k) <+: finished (some k')) ∧
      ∀ k, finished k <+: finished none ∧ finished k <+: finished (some 0) := by
  have names : ∀ name ∈ bots.map Cell.text, name.keyFault? = none := by
    intro name listed
    obtain ⟨bot, -, rfl⟩ := List.mem_map.1 listed
    rfl
  refine ⟨fun g => counts_eq_false, fun k => ((r.withItemCount k).numbering botGroup (bots.map .text)).finishFrom 0
    (GroupedRow.all groupsOf known rest), fun k => ?_, fun k => ?_, fun k i within => ?_, fun k k' positive less => ?_,
    fun k => ⟨?_, ?_⟩⟩
  · exact NumberingRules.apply_yields_finishFrom sized own whole keyed names
  · show EndsAfter ((r.withItemCount k).numbering botGroup (bots.map .text)).counts _ _ _
    exact NumberingRules.endsAfter_finishFrom rfl _
  · obtain ⟨g, found, finished⟩ := NumberingRules.getElem?_finishFrom within
    rw [Nat.zero_add] at finished
    exact ⟨g, _, found, finished, g.finishes_finish r.columns _⟩
  · refine NumberingRules.finishFrom_isPrefix rfl rfl fun count done => ?_
    rw [isDone_numbering (positive.trans_le less), decide_eq_true_eq] at done
    exact (isDone_numbering positive).trans (decide_eq_true (less.trans done))
  · exact NumberingRules.finishFrom_isPrefix rfl rfl fun count done => absurd done Bool.false_ne_true
  · exact NumberingRules.finishFrom_isPrefix rfl rfl fun count done => absurd done Bool.false_ne_true

end Request

/-! ### Two bots among five actors -/

/-- The first two actors that are no bots, with their numbers and groups. -/
def Json.ofNumbers : Json :=
  .object [("wikiId", .text "w"), ("columns", .list [.object [("type", .text "counter")],
      .object [("type", .text "userName")], .object [("type", .text "userGroups")]]),
    ("itemCount", .int 2), ("skipBotsFromCounting", .bool true), ("endDate", .text "2023-12-31")]

/-- A row of a name only. -/
def ReportRow.named (id : Int) (name : String) : ReportRow :=
  ⟨.int id, .text name, [⟨.null, .null⟩, ⟨.text name, .text name⟩, ⟨.null, .null⟩]⟩

/-- Five rows in order. -/
def ReportRow.five : List ReportRow := [named 1 "A", named 2 "Bot", named 3 "C", named 4 "D", named 5 "E"]

lemma ReportRow.isKeyed_five : ∀ row ∈ five, row.IsKeyed := by
  intro row listed
  simp only [five, List.mem_cons, List.not_mem_nil, or_false] at listed
  rcases listed with rfl | rfl | rfl | rfl | rfl <;> exact ⟨rfl, rfl⟩

/-- The third of the actors is in the group of bots. -/
def GroupSource.ofThird : GroupSource where
  lookup _ id := if id.int? = some 3 then [.text "bot"] else []
  size := 2
  lines _ := []

/-- The second number goes to the fourth of five rows, behind a bot by name and one by group, and the fifth is left
out. -/
theorem Request.finished_of_five :
    ∃ r finished, Payload.readRequest Json.ofNumbers = .ok r ∧ 0 < GroupSource.ofThird.size ∧
      GroupSource.ofThird.lookup.IsOf (GroupSource.ofThird.lookup []) ∧ (∀ row ∈ ReportRow.five, row.IsKeyed) ∧
      ((r.numbering "bot" [.text "Bot"]).apply GroupSource.ofThird [] ReportRow.five).Yields finished ∧
      finished.length = 4 ∧ ∃ row, finished[3]? = some row ∧ row.id = .int 4 ∧ row.values[0]? = some (.int 2) := by
  obtain ⟨r, c, parsed, items, counted, second, column, type⟩ : ∃ r c, Payload.readRequest Json.ofNumbers = .ok r ∧
      r.withItemCount (some 2) = r ∧
      r.counts "bot" ["Bot"] ⟨.named 4 "D", []⟩ = true ∧
      ((GroupedRow.all (GroupSource.ofThird.lookup []) [] ReportRow.five).take 4).countP (r.counts "bot" ["Bot"]) = 2 ∧
      r.columns[0]? = some c ∧ c.type = .rowNumber :=
    ⟨_, _, rfl, rfl, by decide +kernel, by decide +kernel, rfl, rfl⟩
  have own : GroupSource.ofThird.lookup.IsOf (GroupSource.ofThird.lookup []) := fun _ _ _ => rfl
  obtain ⟨-, finished, yields, isEnd, finishes, -⟩ :=
    r.finished_of_numbering "bot" ["Bot"] (by decide) own (Or.inl rfl) ReportRow.isKeyed_five
  have length : (finished (some 2)).length = 4 := (isEnd (some 2)).unique (.last rfl counted second)
  obtain ⟨g, row, found, last, shown⟩ := finishes (some 2) 3 (by omega)
  obtain rfl : g = ⟨.named 4 "D", []⟩ := (Option.some.inj found).symm
  have number : row.values[0]? = some (.int 2) := by
    rw [shown.numbers 0 c _ column rfl type, if_pos counted]
    exact congrArg (fun n : Nat => some (Cell.int n)) second
  have yielded := yields (some 2)
  rw [items] at yielded
  exact ⟨r, finished (some 2), parsed, by decide, own, ReportRow.isKeyed_five, yielded, length, row, last, shown.id, number⟩

end ActivityReport
