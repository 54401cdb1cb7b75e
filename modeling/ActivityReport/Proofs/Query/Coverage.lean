import ActivityReport.Proofs.Query.Joined

/-!
# Coverage

The plan of a request and its query agree on what is read. `Query.snapshots` and `Query.ranges` collect
every key that the values, the levels and the predicates of a query refer to; `Query.coverage` says that
these are the keys of the plan, save those that only a column with nothing to show asked for.
-/

namespace ActivityReport

namespace Query

/-- The snapshots that a query refers to: in the values of its columns, for its levels and in its
predicates. -/
def snapshots (q : Query) : List SnapshotKey :=
  (q.columns.filterMap id).flatMap Expression.snapshots ++ q.plan.levels.map LevelSnapshot.key ++
    q.predicates.flatMap Predicate.snapshots

/-- The ranges that a query refers to. -/
def ranges (q : Query) : List RangeKey :=
  (q.columns.filterMap id).flatMap Expression.ranges ++ q.predicates.flatMap Predicate.ranges

variable {r : Request} {p : JoinPlan} {q : Query}

/-- A query is made of the expressions of the columns, their predicates and those of the conditions. -/
lemma ofPlan_eq_ok :
    ofPlan p r = .ok q ↔ ∃ required, r.conditions.mapM (·.predicate? r.window) = .ok required ∧
      q = ⟨p, r.columns.map (·.expression? r.window),
        r.columns.flatMap (·.predicates r.window) ++ required.filterMap id⟩ := by
  rw [ofPlan, bind_eq_ok]
  constructor
  · rintro ⟨required, built, ok⟩
    exact ⟨required, built, (Except.ok.inj ok).symm⟩
  · rintro ⟨required, built, rfl⟩
    exact ⟨required, built, rfl⟩

/-- A query keeps the plan that it is built from. -/
lemma plan_of_ofPlan (built : ofPlan p r = .ok q) : q.plan = p := by
  obtain ⟨_, -, rfl⟩ := ofPlan_eq_ok.1 built
  rfl

/-- The plan of a request is that of its query. -/
lemma ofRequest_plan (built : ofRequest r = .ok q) : JoinPlan.ofRequest r = .ok q.plan := by
  obtain ⟨p, planned, built⟩ := bind_eq_ok.1 built
  rw [plan_of_ofPlan built]
  exact mapError_eq_ok.1 planned

/-- The conditions need the snapshots that their predicates read. -/
lemma snapshot_mem_required {w : Window} {conditions : List Condition} {required : List (List Need)}
    {predicates : List (Option Predicate)} (needed : conditions.mapM (·.needs w) = .ok required)
    (built : conditions.mapM (·.predicate? w) = .ok predicates) {k : SnapshotKey} :
    .snapshot k ∈ required.flatten ↔ ∃ predicate ∈ predicates.filterMap id, k ∈ predicate.snapshots := by
  simp only [List.mem_flatten, List.mem_filterMap, id]
  constructor
  · rintro ⟨list, mem, reads⟩
    obtain ⟨c, listed, own⟩ := (mem_of_mapM_eq_ok needed).1 mem
    obtain ⟨predicate, mem, ownPredicate⟩ := exists_of_mapM_eq_ok built listed
    obtain ⟨predicate, rfl, reads⟩ := (c.snapshot_mem_needs own ownPredicate).1 reads
    exact ⟨predicate, ⟨_, mem, rfl⟩, reads⟩
  · rintro ⟨predicate, ⟨_, mem, rfl⟩, reads⟩
    obtain ⟨c, listed, ownPredicate⟩ := (mem_of_mapM_eq_ok built).1 mem
    obtain ⟨list, mem, own⟩ := exists_of_mapM_eq_ok needed listed
    exact ⟨list, mem, (c.snapshot_mem_needs own ownPredicate).2 ⟨predicate, rfl, reads⟩⟩

/-- What the values of the columns refer to is what the expression of one of them refers to. -/
lemma mem_read_columns {α : Type} {read : Expression → List α} {w : Window} {columns : List Column} {a : α} :
    a ∈ ((columns.map (·.expression? w)).filterMap id).flatMap read ↔
      ∃ c ∈ columns, ∃ e, c.expression? w = some e ∧ a ∈ read e := by
  simp only [List.filterMap_map, List.mem_flatMap, List.mem_filterMap, Function.comp_apply, id]
  constructor
  · rintro ⟨e, ⟨c, listed, own⟩, reads⟩
    exact ⟨c, listed, e, own, reads⟩
  · rintro ⟨c, listed, e, own, reads⟩
    exact ⟨e, ⟨c, listed, own⟩, reads⟩

/-- The predicate of a column refers to what its expression refers to. -/
lemma exists_of_mem_predicates {w : Window} {columns : List Column} {predicate : Predicate}
    (listed : predicate ∈ columns.flatMap (·.predicates w)) :
    ∃ c ∈ columns, ∃ e, c.expression? w = some e ∧ predicate.snapshots = e.snapshots ∧
      predicate.ranges = e.ranges := by
  obtain ⟨c, asked, positive⟩ := List.mem_flatMap.1 listed
  obtain ⟨-, e, own, rfl⟩ := Column.mem_predicates.1 positive
  exact ⟨c, asked, e, own, rfl, rfl⟩

/-- The snapshots of a query are those of its columns, of its levels and of its conditions. -/
lemma mem_snapshots_of_parts {w : Window} {columns : List Column} {required : List (Option Predicate)}
    {k : SnapshotKey} :
    k ∈ (Query.mk p (columns.map (·.expression? w))
        (columns.flatMap (·.predicates w) ++ required.filterMap id)).snapshots ↔
      (∃ c ∈ columns, ∃ e, c.expression? w = some e ∧ k ∈ e.snapshots) ∨
        (∃ l ∈ p.levels, l.key = k) ∨ ∃ predicate ∈ required.filterMap id, k ∈ predicate.snapshots := by
  simp only [snapshots, List.mem_append, mem_read_columns, List.flatMap_append, List.mem_map]
  constructor
  · rintro ((column | level) | predicate | condition)
    · exact Or.inl column
    · exact Or.inr (Or.inl level)
    · obtain ⟨predicate, listed, reads⟩ := List.mem_flatMap.1 predicate
      obtain ⟨c, listed, e, own, same, -⟩ := exists_of_mem_predicates listed
      exact Or.inl ⟨c, listed, e, own, same ▸ reads⟩
    · exact Or.inr (Or.inr (List.mem_flatMap.1 condition))
  · rintro (column | level | condition)
    · exact Or.inl (Or.inl column)
    · exact Or.inl (Or.inr level)
    · exact Or.inr (Or.inr (List.mem_flatMap.2 condition))

/-- The ranges of a query are those of its columns. -/
lemma mem_ranges_of_parts {w : Window} {columns : List Column} {conditions : List Condition}
    {required : List (Option Predicate)} (built : conditions.mapM (·.predicate? w) = .ok required)
    {key : RangeKey} :
    key ∈ (Query.mk p (columns.map (·.expression? w))
        (columns.flatMap (·.predicates w) ++ required.filterMap id)).ranges ↔
      ∃ c ∈ columns, ∃ e, c.expression? w = some e ∧ key ∈ e.ranges := by
  simp only [ranges, List.mem_append, mem_read_columns, List.flatMap_append]
  constructor
  · rintro (column | predicate | condition)
    · exact column
    · obtain ⟨predicate, listed, reads⟩ := List.mem_flatMap.1 predicate
      obtain ⟨c, listed, e, own, -, same⟩ := exists_of_mem_predicates listed
      exact ⟨c, listed, e, own, same ▸ reads⟩
    -- no condition looks at a range
    · obtain ⟨predicate, listed, reads⟩ := List.mem_flatMap.1 condition
      obtain ⟨_, listed, rfl⟩ := List.mem_filterMap.1 listed
      obtain ⟨c, -, own⟩ := (mem_of_mapM_eq_ok built).1 listed
      exact absurd reads (c.range_not_mem_predicate own)
  · exact Or.inl

end Query

namespace JoinPlan

variable {r : Request} {p : JoinPlan} {q : Query}

/-- A query refers to every snapshot of its plan but those that only a blank column asked for, and the
plan holds every snapshot that the query refers to. -/
lemma mem_snapshots_iff (planned : ofRequest r = .ok p) (built : Query.ofPlan p r = .ok q) {k : SnapshotKey} :
    k ∈ p.snapshots ↔ k ∈ q.snapshots ∨
      ∃ c ∈ r.columns, c.IsBlank ∧ .snapshot k ∈ r.window.needSpan .actor .inPeriod .whole := by
  obtain ⟨needs, needed, rfl⟩ := ofRequest_eq_ok.1 planned
  obtain ⟨predicates, required, rfl⟩ := Query.ofPlan_eq_ok.1 built
  rw [mem_snapshots_ofNeeds, List.mem_append, Query.snapshot_mem_required needed required,
    Query.mem_snapshots_of_parts]
  simp only [mem_levels_ofNeeds, List.mem_flatMap, Column.snapshot_mem_needs]
  constructor
  · rintro ((⟨c, listed, reads | blank⟩ | condition) | level)
    · exact Or.inl (Or.inl ⟨c, listed, reads⟩)
    · exact Or.inr ⟨c, listed, blank⟩
    · exact Or.inl (Or.inr (Or.inr condition))
    · exact Or.inl (Or.inr (Or.inl level))
  · rintro ((⟨c, listed, reads⟩ | level | condition) | ⟨c, listed, blank⟩)
    · exact Or.inl (Or.inl ⟨c, listed, Or.inl reads⟩)
    · exact Or.inr level
    · exact Or.inl (Or.inr condition)
    · exact Or.inl (Or.inl ⟨c, listed, Or.inr blank⟩)

/-- A query refers to the ranges of its plan. -/
lemma mem_ranges_iff (planned : ofRequest r = .ok p) (built : Query.ofPlan p r = .ok q) {key : RangeKey} :
    key ∈ p.ranges ↔ key ∈ q.ranges := by
  obtain ⟨needs, needed, rfl⟩ := ofRequest_eq_ok.1 planned
  obtain ⟨predicates, required, rfl⟩ := Query.ofPlan_eq_ok.1 built
  rw [mem_ranges_ofNeeds, List.mem_append, Query.mem_ranges_of_parts required]
  simp only [List.mem_flatMap, Column.range_mem_needs]
  constructor
  · rintro (column | condition)
    · exact column
    · obtain ⟨list, mem, reads⟩ := List.mem_flatten.1 condition
      obtain ⟨c, -, own⟩ := (mem_of_mapM_eq_ok needed).1 mem
      exact absurd reads (c.range_not_mem_needs own)
  · exact Or.inl

/-- A query refers to exactly what its plan reads, save for the snapshots that only a column with no
milestone to look for asked for. The plan lists everything once, reads the snapshot of each of its
levels, and from every store it brings each key that the query looks up. -/
theorem coverage (planned : ofRequest r = .ok p) (built : Query.ofPlan p r = .ok q) :
    (∀ k, k ∈ p.snapshots ↔ k ∈ q.snapshots ∨
      ∃ c ∈ r.columns, c.IsBlank ∧ .snapshot k ∈ r.window.needSpan .actor .inPeriod .whole) ∧
    (∀ key, key ∈ p.ranges ↔ key ∈ q.ranges) ∧
    (p.snapshots.Nodup ∧ p.ranges.Nodup ∧ p.levels.Nodup) ∧
    (∀ l ∈ p.levels, l.key ∈ p.snapshots) ∧
    ∀ (s : Store) (actorTable : String), ∀ j ∈ s.joined actorTable q.plan,
      q.snapshots ⊆ j.snapshots.map Prod.fst ∧ q.ranges ⊆ j.ranges.map Prod.fst := by
  obtain ⟨needs, -, made⟩ := ofRequest_eq_ok.1 planned
  refine ⟨fun k => mem_snapshots_iff planned built, fun key => mem_ranges_iff planned built, ?_, ?_, ?_⟩
  · rw [made]
    exact nodup_ofNeeds _
  · rw [made]
    exact fun l listed => key_mem_ofNeeds listed
  -- every joined row carries all keys of the plan, so that none that is looked up is missing
  · intro s actorTable j found
    obtain ⟨snapshots, ranges⟩ := Store.keys_of_mem_joined found
    rw [snapshots, ranges, Query.plan_of_ofPlan built]
    exact ⟨fun k reads => (mem_snapshots_iff planned built).2 (Or.inl reads),
      fun key reads => (mem_ranges_iff planned built).2 reads⟩

/-- A column without a milestone to look for is planned for, though the query refers to nothing. -/
theorem coverage_of_blank_column :
    ∃ r p q, ofRequest r = .ok p ∧ Query.ofPlan p r = .ok q ∧ p.snapshots.length = 2 ∧ q.snapshots = [] ∧
      ∀ k ∈ p.snapshots, ∃ c ∈ r.columns, c.IsBlank := by
  obtain ⟨r, p, q, planned, built, size, nothing⟩ : ∃ r p q, ofRequest r = .ok p ∧
      Query.ofPlan p r = .ok q ∧ p.snapshots.length = 2 ∧ q.snapshots = [] :=
    ⟨{ Request.ofConditions "w" [] ⟨738885, by decide, by decide⟩ with
        columns := [⟨.milestone .edits, none, .milestones none, false, rfl⟩]
        window := ⟨some ⟨738521, by decide, by decide⟩, ⟨738885, by decide, by decide⟩⟩
        ordered := by simp [Date.le_def] }, _, _, rfl, rfl, rfl, rfl⟩
  refine ⟨r, p, q, planned, built, size, nothing, fun k listed => ?_⟩
  rcases ((coverage planned built).1 k).1 listed with reads | ⟨c, asked, blank, -⟩
  · rw [nothing] at reads
    cases reads
  · exact ⟨c, asked, blank⟩

end JoinPlan

end ActivityReport
