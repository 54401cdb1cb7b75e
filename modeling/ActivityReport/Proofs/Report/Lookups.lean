import ActivityReport.Proofs.Report.Numbering
import ActivityReport.Proofs.Report.Order
import ActivityReport.Proofs.Trace.Lookups

/-!
# Groups on demand

Looking groups up only as far as a report reaches does not show in it: it is the report for groups that are all known
before (`Layout.report_agree_upFront`). What does show is who is asked for. Numbering asks for one batch after the
other, and for as many as its rows reach into (`NumberingRules.flatten_asked`); rows that are ordered by their groups
are asked for together before, and then no more (`Layout.report_leaves_of_sortsByGroups`).
-/

namespace ActivityReport

open Traced (Agree IsQuiet Leaves comesTo_pure comesTo_result)

/-! ## One report -/

/-- The source that tells the groups of all actors whoever is asked for, and leaves no lines. -/
def GroupSource.upFront (groups : GroupSource) (groupsOf : Cell → List Cell) : GroupSource :=
  ⟨fun _ => groupsOf, groups.size, fun _ => []⟩

lemma GroupSource.upFront_isOf (groups : GroupSource) (groupsOf : Cell → List Cell) :
    (groups.upFront groupsOf).lookup.IsOf groupsOf := fun _ _ _ => rfl

lemma GroupSource.note_agree (groups groups' : GroupSource) (asked : List (List Cell)) :
    Agree Eq (groups.note asked) (groups'.note asked) := fun _ => ⟨.ok rfl, rfl⟩

namespace NumberingRules

variable {rules : NumberingRules} {lookup lookup' : GroupLookup} {groupsOf : Cell → List Cell} {batch count : Nat}
  {known : List GroupedRow} {rest : List ReportRow}

/-- Look-ups that tell the same of each actor number rows alike, and are asked for the same actors. -/
lemma number_congr (own : lookup.IsOf groupsOf) (own' : lookup'.IsOf groupsOf) :
    rules.number lookup batch count known rest = rules.number lookup' batch count known rest := by
  fun_induction number rules lookup batch count known rest with
  | case1 => rw [number]
  | case2 count g known rest done => rw [number, if_pos done]
  | case3 count g known rest notDone passed rows asked found ih =>
    rw [number, if_neg notDone, if_pos passed, ← ih, found]
  | case4 count g known rest notDone notPassed rows asked found ih =>
    rw [number, if_neg notDone, if_neg notPassed, ← ih, found]
  | case5 count first rest done => rw [number, if_pos done]
  | case6 count first rest notDone ids rows asked found ih =>
    rw [own.map_ofLookup] at ih found
    rw [number, if_neg notDone]
    simp only [own'.map_ofLookup, ← ih, found, ids]

/-- Rows are numbered alike on demand and with all groups known. -/
lemma apply_agree_upFront {groups : GroupSource} (own : groups.lookup.IsOf groupsOf) :
    Agree Eq (rules.apply groups known rest) (rules.apply (groups.upFront groupsOf) known rest) := by
  unfold apply
  refine (Agree.refl _).bind ?_
  rintro _ _ rfl
  rw [number_congr own (groups.upFront_isOf groupsOf)]
  simp only [show (groups.upFront groupsOf).stride = groups.stride from rfl,
    show (groups.upFront groupsOf).fallsShort = groups.fallsShort from rfl,
    show (groups.upFront groupsOf).reach = groups.reach from rfl]
  split
  · refine (groups.note_agree _ _).bind ?_
    rintro _ _ rfl
    exact .fail _
  · refine (groups.note_agree _ _).bind ?_
    rintro _ _ rfl
    exact .refl _

end NumberingRules

namespace Layout

variable {l : Layout} {r : Request} {rules : NumberingRules} {groups : GroupSource} {groupsOf : Cell → List Cell}

/-- Rows are ordered alike on demand and with all groups known. -/
lemma ordered_agree_upFront (own : groups.lookup.IsOf groupsOf) (rows : List ReportRow) :
    Agree Eq (l.ordered r groups rows) (l.ordered r (groups.upFront groupsOf) rows) := by
  have grouped : ∀ row : ReportRow, row.id ∈ rows.map ReportRow.id →
      GroupedRow.ofLookup (groups.lookup (rows.map ReportRow.id)) row = GroupedRow.ofLookup groupsOf row := by
    intro row listed
    rw [GroupedRow.ofLookup, GroupedRow.ofLookup, own _ _ listed]
  have filled : rows.map (fun row => (GroupedRow.ofLookup (groups.lookup (rows.map ReportRow.id)) row).withGroupCells
      (l.columns.map (·.column.type))) =
      rows.map fun row => (GroupedRow.ofLookup groupsOf row).withGroupCells (l.columns.map (·.column.type)) :=
    List.map_congr_left fun row listed => by rw [grouped row (List.mem_map_of_mem listed)]
  unfold ordered
  simp only [filled]
  split
  · refine (groups.note_agree _ _).bind ?_
    rintro _ _ rfl
    refine (Agree.refl _).bind ?_
    rintro _ _ rfl
    refine (Agree.refl _).bind ?_
    rintro _ _ rfl
    refine (Agree.result (Corresponds.refl _).results).bind ?_
    rintro sorted _ ⟨rfl, inOrder, -⟩
    refine .pure (congrArg (·, []) (List.map_congr_left fun row listed => grouped row ?_))
    -- rows in order are those with filled in groups, of the same actors
    obtain ⟨source, isSource, rfl⟩ := List.mem_map.1 ((sortRows_perm (mapError_eq_ok.1 inOrder)).mem_iff.1 listed)
    show source.id ∈ rows.map ReportRow.id
    exact List.mem_map_of_mem isSource
  · exact .refl _

/-- A report with groups on demand is the one with all groups known. -/
theorem report_agree_upFront (own : groups.lookup.IsOf groupsOf) (raw : List SourceRow) :
    Agree Eq (l.report r rules groups raw) (l.report r rules (groups.upFront groupsOf) raw) := by
  unfold report
  refine (Agree.refl _).bind ?_
  rintro rows _ rfl
  split
  · exact .fail _
  · refine (ordered_agree_upFront own _).bind ?_
    rintro ⟨known, rest⟩ _ rfl
    refine (NumberingRules.apply_agree_upFront own).bind ?_
    rintro finished _ rfl
    exact .refl _

end Layout

/-! ## Who is asked for -/

namespace NumberingRules

variable {rules : NumberingRules} {lookup : GroupLookup} {groups : GroupSource} {batch count : Nat}
  {known : List GroupedRow} {rest : List ReportRow}

/-- No look-up is larger than a batch. -/
lemma length_le_of_mem_asked {ids : List Cell} (asked : ids ∈ (rules.number lookup batch count known rest).2) :
    ids.length ≤ batch + 1 := by
  fun_induction number rules lookup batch count known rest with
  | case1 | case2 | case5 => cases asked
  | case3 count g known rest notDone passed rows others found ih
  | case4 count g known rest notDone passed rows others found ih =>
    rw [found] at ih
    exact ih asked
  | case6 count first rest notDone own rows others found ih =>
    rw [found] at ih
    rcases List.mem_cons.1 asked with rfl | later
    · rw [List.length_map, List.length_cons, List.length_take]
      omega
    · exact ih later

end NumberingRules

lemma GroupSource.note_leaves (groups : GroupSource) (asked : List (List Cell)) :
    (groups.note asked).Leaves fun noted r => noted = asked ∧ r = .ok () := fun _ => ⟨List.append_nil _, rfl⟩

lemma isQuiet_refuseKey (fault : Option Cell.KeyFault) : (refuseKey fault).IsQuiet := by
  cases fault <;> exact .result _

namespace NumberingRules

variable {rules : NumberingRules} {groups : GroupSource} {known : List GroupedRow} {rest : List ReportRow}

/-- Numbering notes the first of its look-ups, and all of them when it comes to an end. -/
lemma apply_leaves (sized : 0 < groups.size) (whole : known = [] ∨ rest = []) :
    (rules.apply groups known rest).Leaves fun asked r =>
      asked <+: (rules.number groups.lookup (groups.stride rest.length - 1) 0 known rest).2 ∧
      ∀ rows, r = .ok rows →
        (rows, asked) = rules.number groups.lookup (groups.stride rest.length - 1) 0 known rest := by
  unfold apply
  refine (isQuiet_refuseKey _).bind_leaves (fun e => ⟨List.nil_prefix, nofun⟩) fun _ _ => ?_
  simp only [fallsShort_number sized whole, Bool.false_eq_true, if_false, Bool.false_and]
  split
  · refine (groups.note_leaves _).bind (fun _ _ failed => nomatch failed.2) ?_
    rintro asked _ - ⟨rfl, -⟩
    refine .fail ⟨?_, nofun⟩
    rw [List.append_nil]
    exact List.take_prefix _ _
  · refine (groups.note_leaves _).bind (fun _ _ failed => nomatch failed.2) ?_
    rintro asked _ - ⟨rfl, -⟩
    refine .pure ?_
    rw [List.append_nil]
    exact ⟨List.prefix_refl _, fun rows same => by rw [← Except.ok.inj same]⟩

end NumberingRules

namespace NumberingRules

/-- The first look-ups ask for some of those whose groups are not known, in their order. -/
lemma flatten_sublist_of_prefix {rules : NumberingRules} {lookup : GroupLookup} {batch count : Nat}
    {known : List GroupedRow} {rest : List ReportRow} {asked : List (List Cell)}
    (first : asked <+: (rules.number lookup batch count known rest).2) :
    asked.flatten.Sublist (rest.map ReportRow.id) := by
  obtain ⟨more, whole⟩ := first
  have all := @flatten_asked_isPrefix rules lookup batch count known rest
  rw [← whole, List.flatten_append] at all
  exact (List.sublist_append_left _ _).trans all.sublist

/-- Nobody is asked for whose groups are known. -/
lemma asked_of_known (rules : NumberingRules) (lookup : GroupLookup) (batch count : Nat) (known : List GroupedRow) :
    (rules.number lookup batch count known []).2 = [] := by
  induction known generalizing count with
  | nil => rw [number]
  | cons g known ih =>
    rw [number]
    split
    · rfl
    · split
      · exact ih count
      · exact ih (count + 1)

end NumberingRules

namespace Layout

variable {l : Layout} {r : Request} {rules : NumberingRules} {groups : GroupSource} {raw : List SourceRow}

lemma isQuiet_levelled (l : Layout) (r : Request) (raw : List SourceRow) : (l.levelled r raw).IsQuiet := by
  refine IsQuiet.ite_bind (.logAll _) (IsQuiet.bind (.result _) fun rows => ?_)
  split
  · exact IsQuiet.bind (.logAll _) fun _ => .pure _
  · exact .pure _

/-- Rows that are ordered by groups are asked for together before. -/
lemma ordered_leaves (l : Layout) (r : Request) (groups : GroupSource) (rows : List ReportRow) :
    (l.ordered r groups rows).Leaves fun asked _ =>
      asked = if r.sortsByGroups && !rows.isEmpty then [rows.map ReportRow.id] else [] := by
  have sort : ∀ (keys : List SortKey) (rows : List ReportRow) (f : List ReportRow → List GroupedRow × List ReportRow),
      (Traced.result ((sortRows keys rows).mapError Failure.order) >>= fun sorted => pure (f sorted)).IsQuiet :=
    fun _ _ _ => IsQuiet.bind (.result _) fun _ => .pure _
  unfold ordered
  split
  · refine ((groups.note_leaves _).mono fun _ _ noted => noted.1).bind_quiet fun _ => ?_
    exact (isQuiet_refuseKey _).bind fun _ => IsQuiet.bind (.logAll _) fun _ => sort _ _ _
  · exact IsQuiet.bind (.logAll _) fun _ => sort _ _ _

/-- Rows that are not ordered by groups come out without them, in order. -/
lemma sorted_of_ordered (noSort : r.sortsByGroups = false) {reports rest : List ReportRow} {known : List GroupedRow}
    (h : (l.ordered r groups reports).ComesTo (known, rest)) :
    known = [] ∧ sortRows r.sortKeys reports = .ok rest := by
  unfold ordered at h
  rw [noSort, Bool.false_and, if_neg Bool.false_ne_true] at h
  obtain ⟨_, -, h⟩ := h.bind
  obtain ⟨sorted, inOrder, h⟩ := h.bind
  obtain ⟨rfl, rfl⟩ := Prod.mk.inj (comesTo_pure.1 h)
  exact ⟨rfl, mapError_eq_ok.1 (comesTo_result.1 inOrder)⟩

/-- Rows that are ordered by groups come out with them. -/
lemma rest_eq_nil_of_ordered (sorts : r.sortsByGroups = true) {reports rest : List ReportRow} {known : List GroupedRow}
    (h : (l.ordered r groups reports).ComesTo (known, rest)) : rest = [] := by
  unfold ordered at h
  rw [sorts, Bool.true_and] at h
  split at h
  · obtain ⟨_, -, h⟩ := h.bind
    obtain ⟨_, -, h⟩ := h.bind
    obtain ⟨_, -, h⟩ := h.bind
    obtain ⟨_, -, h⟩ := h.bind
    exact (Prod.mk.inj (comesTo_pure.1 h)).2.symm
  · rename_i none
    rw [Bool.not_eq_true, Bool.not_eq_false', List.isEmpty_iff] at none
    obtain ⟨_, -, h⟩ := h.bind
    obtain ⟨sorted, inOrder, h⟩ := h.bind
    obtain ⟨-, rfl⟩ := Prod.mk.inj (comesTo_pure.1 h)
    have perm := sortRows_perm (mapError_eq_ok.1 (comesTo_result.1 inOrder))
    rw [none] at perm
    exact perm.eq_nil

lemma closing_leaves {c : Prop} [Decidable c] (lines : List LogLine) (finished : List ActorRow) :
    (Traced.logAll lines >>= fun _ => if c then Traced.fail (.ungrouped false) >>= fun _ : Unit => pure finished
      else pure finished : Traced Failure (List ActorRow)).Leaves fun asked result =>
        asked = [] ∧ ∀ rows, result = .ok rows → rows = finished := by
  refine (IsQuiet.logAll lines).bind_leaves (fun e => ⟨rfl, nofun⟩) fun _ _ => ?_
  split
  · exact IsQuiet.bind_leaves (.result _) (fun e => ⟨rfl, nofun⟩) fun _ comes => absurd comes Traced.not_comesTo_fail
  · exact .pure ⟨rfl, fun rows same => (Except.ok.inj same).symm⟩

/-- A report whose rows are not ordered by groups asks for them while it numbers the rows. -/
lemma report_leaves (sized : 0 < groups.size) (noSort : r.sortsByGroups = false) :
    (l.report r rules groups raw).Leaves fun asked result =>
      asked = [] ∧ (∀ rows, result ≠ .ok rows) ∨
      ∃ kept sorted, (l.levelled r raw).ComesTo kept ∧
        sortRows r.sortKeys (kept.map (·.report l r.window)) = .ok sorted ∧
        asked <+: (rules.number groups.lookup (groups.stride sorted.length - 1) 0 [] sorted).2 ∧
        ∀ rows, result = .ok rows →
          (rows, asked) = rules.number groups.lookup (groups.stride sorted.length - 1) 0 [] sorted := by
  unfold report
  refine (isQuiet_levelled l r raw).bind_leaves (fun e => Or.inl ⟨rfl, nofun⟩) fun kept levelled => ?_
  split
  · exact IsQuiet.bind_leaves (.result _) (fun e => Or.inl ⟨rfl, nofun⟩) fun _ comes =>
      absurd comes Traced.not_comesTo_fail
  · refine (ordered_leaves l r groups _).bind (fun asked e none => ?_) ?_
    · rw [noSort] at none
      exact Or.inl ⟨none, nofun⟩
    · rintro asked ⟨known, rest⟩ ordered none
      obtain ⟨rfl, sorted⟩ := sorted_of_ordered noSort ordered
      rw [noSort] at none
      obtain rfl : asked = [] := none
      refine (NumberingRules.apply_leaves sized (Or.inl rfl)).bind
        (fun asked e first => Or.inr ⟨kept, rest, levelled, sorted, first.1, nofun⟩) ?_
      rintro asked finished - ⟨first, numbered⟩
      refine (closing_leaves _ finished).mono ?_
      rintro _ result ⟨rfl, closed⟩
      rw [List.append_nil, List.nil_append]
      refine Or.inr ⟨kept, rest, levelled, sorted, first, fun rows same => ?_⟩
      rw [closed rows same]
      exact numbered finished rfl

/-- A report whose rows are ordered by groups asks for all of them at once, and for nobody while it numbers the
rows. -/
lemma report_leaves_of_sortsByGroups (sized : 0 < groups.size) (sorts : r.sortsByGroups = true) :
    (l.report r rules groups raw).Leaves fun asked _ =>
      asked = [] ∨ ∃ kept, (l.levelled r raw).ComesTo kept ∧ asked = [kept.map (·.raw.id)] := by
  unfold report
  refine (isQuiet_levelled l r raw).bind_leaves (fun e => Or.inl rfl) fun kept levelled => ?_
  split
  · exact IsQuiet.bind_leaves (.result _) (fun e => Or.inl rfl) fun _ comes =>
      absurd comes Traced.not_comesTo_fail
  · have ids : (kept.map (·.report l r.window)).map ReportRow.id = kept.map (·.raw.id) := by
      rw [List.map_map]
      rfl
    have together : (l.ordered r groups (kept.map (·.report l r.window))).Leaves fun asked _ =>
        asked = [] ∨ asked = [kept.map (·.raw.id)] := by
      refine (ordered_leaves l r groups _).mono fun asked _ noted => ?_
      rw [noted, ids]
      split
      · exact Or.inr rfl
      · exact Or.inl rfl
    refine (together.mono fun asked _ => Or.imp_right fun all => ⟨kept, levelled, all⟩).bind (fun _ _ first => first) ?_
    rintro asked ⟨known, rest⟩ ordered first
    obtain rfl := rest_eq_nil_of_ordered sorts ordered
    -- nobody is asked for again
    have numbered : (rules.apply groups known []).Leaves fun more _ => more = [] :=
      (NumberingRules.apply_leaves sized (Or.inr rfl)).mono fun more _ asked =>
        List.prefix_nil.1 (NumberingRules.asked_of_known rules groups.lookup _ 0 known ▸ asked.1)
    refine (numbered.bind_quiet fun finished => ?_).mono fun more _ none => ?_
    · exact fun clock => ((closing_leaves _ finished) clock).1
    · rw [none, List.append_nil]
      exact first

lemma nodup_kept (distinct : (raw.map SourceRow.id).Nodup) {kept : List LevelledRow}
    (levelled : (l.levelled r raw).ComesTo kept) : (kept.map (·.raw.id)).Nodup := by
  obtain ⟨all, own, rfl⟩ := rows_of_levelled levelled
  have ids : all.map (·.raw.id) = raw.map SourceRow.id := by
    rw [← map_raw_of_withLevels own, List.map_map]
    rfl
  exact (ids ▸ distinct).sublist (List.filter_sublist.map _)

/-- Looking groups up on demand does not show in a report, but for who is asked for. The report is the one with all
groups known before, nobody is asked for twice, and while rows are numbered no look-up is larger than a batch.
Without an order by groups those are asked for that the batches of the rows of the report reach; with one, all are
asked for at once, before the rows are ordered. -/
theorem lookups_of_report (l : Layout) (r : Request) (rules : NumberingRules) {groups : GroupSource}
    (sized : 0 < groups.size) {groupsOf : Cell → List Cell} (own : groups.lookup.IsOf groupsOf) {raw : List SourceRow}
    (distinct : (raw.map SourceRow.id).Nodup) (clock : List Float) :
    ((l.report r rules groups raw).run clock).result =
      ((l.report r rules (groups.upFront groupsOf) raw).run clock).result ∧
    ((l.report r rules groups raw).run clock).lookups.flatten.Nodup ∧
    (∀ known rest, known = [] ∨ rest = [] → ∀ clock,
      ∀ ids ∈ ((rules.apply groups known rest).run clock).lookups, ids.length ≤ groups.size.toNat) ∧
    (r.sortsByGroups = true → ((l.report r rules groups raw).run clock).lookups = [] ∨
      ∃ kept, (l.levelled r raw).ComesTo kept ∧
        ((l.report r rules groups raw).run clock).lookups = [kept.map (·.raw.id)]) ∧
    (r.sortsByGroups = false →
      (∀ ids ∈ ((l.report r rules groups raw).run clock).lookups, ids.length ≤ groups.size.toNat) ∧
      ∀ rows, ((l.report r rules groups raw).run clock).result = .ok rows →
        ∃ kept sorted, (l.levelled r raw).ComesTo kept ∧
          sortRows r.sortKeys (kept.map (·.report l r.window)) = .ok sorted ∧
          rows.map ActorRow.id <+: sorted.map ReportRow.id ∧
          ((l.report r rules groups raw).run clock).lookups.flatten = (sorted.map ReportRow.id).take
            (min sorted.length ((rows.length + groups.size.toNat - 1) / groups.size.toNat * groups.size.toNat))) := by
  have some : 1 ≤ groups.size.toNat := by omega
  have stride : ∀ n, groups.stride n - 1 = groups.size.toNat - 1 := by
    intro n
    rw [GroupSource.stride, if_pos sized]
  have batch : ∀ n, groups.stride n - 1 + 1 = groups.size.toNat := by
    intro n
    rw [stride, Nat.sub_add_cancel some]
  refine ⟨((report_agree_upFront own raw) clock).1.eq, ?_, ?_, ?_, ?_⟩
  · cases sorts : r.sortsByGroups with
    | true =>
      rcases report_leaves_of_sortsByGroups sized sorts clock with none | ⟨kept, levelled, all⟩
      · rw [none]
        exact List.nodup_nil
      · rw [all, List.flatten_singleton]
        exact nodup_kept distinct levelled
    | false =>
      rcases report_leaves sized sorts clock with ⟨none, -⟩ | ⟨kept, sorted, levelled, inOrder, first, -⟩
      · rw [none]
        exact List.nodup_nil
      · have perm := (sortRows_perm inOrder).map ReportRow.id
        rw [List.map_map] at perm
        exact (perm.nodup_iff.2 (nodup_kept distinct levelled)).sublist (NumberingRules.flatten_sublist_of_prefix first)
  · intro known rest whole clock ids asked
    rw [← batch rest.length]
    exact NumberingRules.length_le_of_mem_asked
      (List.IsPrefix.subset (NumberingRules.apply_leaves sized whole clock).1 asked)
  · exact fun sorts => report_leaves_of_sortsByGroups sized sorts clock
  · intro noSort
    rcases report_leaves sized noSort clock with ⟨none, failed⟩ | ⟨kept, sorted, levelled, inOrder, first, numbered⟩
    · refine ⟨fun ids asked => ?_, fun rows same => absurd same (failed rows)⟩
      rw [none] at asked
      cases asked
    · refine ⟨fun ids asked => ?_, fun rows same => ⟨kept, sorted, levelled, inOrder, ?_, ?_⟩⟩
      · rw [← batch sorted.length]
        exact NumberingRules.length_le_of_mem_asked (List.IsPrefix.subset first asked)
      · have ids := @NumberingRules.ids_prefix rules groups.lookup (groups.stride sorted.length - 1) 0 [] sorted
        rwa [← numbered rows same] at ids
      · have asked := @NumberingRules.flatten_asked rules groups.lookup (groups.stride sorted.length - 1) 0 [] sorted
        rw [← numbered rows same, List.length_nil, Nat.sub_zero, batch, stride, ← Nat.add_sub_assoc some,
          List.take_eq_take_min, List.length_map, Nat.min_comm] at asked
        exact asked

end Layout

/-- Five actors as a source returns them. -/
def SourceRow.five : List SourceRow :=
  [⟨.int 1, .text "A", fun _ => .null⟩, ⟨.int 2, .text "Bot", fun _ => .null⟩, ⟨.int 3, .text "C", fun _ => .null⟩,
    ⟨.int 4, .text "D", fun _ => .null⟩, ⟨.int 5, .text "E", fun _ => .null⟩]

/-- The five rows, without levels. -/
def LevelledRow.five : List LevelledRow := SourceRow.five.map (⟨·, []⟩)

/-- Three columns that no query has worked out. -/
def Layout.unlabelled (r : Request) : Layout := .ofRequest r [none, none, none] [] none

/-- The report on the five actors. -/
def Layout.reportOfFive (r : Request) : Traced Failure (List ActorRow) :=
  (unlabelled r).report r (r.numbering "bot" [.text "Bot"]) GroupSource.ofThird SourceRow.five

/-- Two batches of two actors are asked for where the report ends with the fourth of five. -/
theorem Layout.lookups_of_five :
    ∃ r rows, Payload.readRequest Json.ofNumbers = .ok r ∧ 0 < GroupSource.ofThird.size ∧
      GroupSource.ofThird.lookup.IsOf (GroupSource.ofThird.lookup []) ∧ (SourceRow.five.map SourceRow.id).Nodup ∧
      r.sortsByGroups = false ∧ ((reportOfFive r).run []).result = .ok rows ∧ rows.length = 4 ∧
      ((reportOfFive r).run []).lookups.flatten = [.int 1, .int 2, .int 3, .int 4] := by
  obtain ⟨r, parsed, noSort, noKeys, noConditions, labelled, levelled, reports, length⟩ :
      ∃ r, Payload.readRequest Json.ofNumbers = .ok r ∧ r.sortsByGroups = false ∧ r.sortKeys = [] ∧
        r.requiresLevels = false ∧ (unlabelled r).lacksLabels r = false ∧
        (unlabelled r).withLevels SourceRow.five = .ok LevelledRow.five ∧
        LevelledRow.five.map (·.report (unlabelled r) r.window) = ReportRow.five ∧
        ((r.numbering "bot" [.text "Bot"]).number GroupSource.ofThird.lookup 1 0 [] ReportRow.five).1.length = 4 :=
    ⟨_, rfl, rfl, rfl, rfl, rfl, rfl, rfl, by decide +kernel⟩
  have sized : 0 < GroupSource.ofThird.size := by decide
  have own : GroupSource.ofThird.lookup.IsOf (GroupSource.ofThird.lookup []) := fun _ _ _ => rfl
  have distinct : (SourceRow.five.map SourceRow.id).Nodup :=
    List.Nodup.map (l := [1, 2, 3, 4, 5]) (fun _ _ => Cell.int.inj) (by decide)
  have sorted : sortRows r.sortKeys ReportRow.five = .ok ReportRow.five := by
    rw [noKeys]
    refine (if_pos (by decide +kernel)).trans (congrArg Except.ok (List.mergeSort_of_pairwise ?_))
    decide +kernel
  have kept := levelled_yields (r := r) levelled
  rw [List.filter_eq_self.2 fun row _ => keepsLevels_of_not_requiresLevels noConditions row] at kept
  have reported : (reportOfFive r).Yields
      ((r.numbering "bot" [.text "Bot"]).number GroupSource.ofThird.lookup 1 0 [] ReportRow.five).1 := by
    refine report_yields sized kept labelled
      (ordered_yields noSort (reports.symm ▸ sorted)) (Or.inl rfl) ReportRow.isKeyed_five fun name listed => ?_
    rw [List.mem_singleton.1 listed]
    rfl
  obtain ⟨-, -, -, -, asked⟩ :=
    (unlabelled r).lookups_of_report r (r.numbering "bot" [.text "Bot"]) sized own distinct []
  obtain ⟨kept', sorted', ⟨clock, levelled'⟩, sortedAs, -, flat⟩ := (asked noSort).2 _ (reported [])
  obtain rfl := Except.ok.inj ((kept clock).symm.trans levelled')
  rw [reports, sorted] at sortedAs
  obtain rfl := Except.ok.inj sortedAs
  rw [length] at flat
  exact ⟨r, _, parsed, sized, own, distinct, noSort, reported [], length, flat⟩

end ActivityReport
