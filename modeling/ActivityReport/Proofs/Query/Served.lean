import ActivityReport.Proofs.Query.Coverage
import ActivityReport.Proofs.Query.Totals

/-!
# What can be looked up

A plan serves its request: every snapshot and every range of the plan can be joined, and every total, every range and
every choice that a column, a condition or a level refers to is there (`JoinPlan.serves`). It needs that the columns
and the conditions are on offer, since not every table counts every counter.
-/

namespace ActivityReport

/-- Whether a plan has a total: it reads the snapshot, whose table counts the counter. -/
def JoinPlan.Has (p : JoinPlan) (total : SnapshotKey × Counter) : Prop :=
  total.1 ∈ p.snapshots ∧ total.1.Counts total.2

/-- Whether the value of a column can be written down with a plan: the plan has all that it refers to, and no sum, no
choice of a day and no choice of a milestone is made from nothing. -/
structure Column.IsWritable (w : Window) (p : JoinPlan) (c : Column) : Prop where
  scopes : c.scopes ≠ []
  filters : ∀ keys edge, c.expression? w = some (.filterDay keys edge) → keys ≠ []
  milestones : ∀ earlier later list, c.expression? w = some (.milestone earlier later list) → list ≠ []
  totals : ∀ e, c.expression? w = some e → ∀ total ∈ e.totals, p.Has total
  ranges : ∀ e, c.expression? w = some e → ∀ key ∈ e.ranges, key ∈ p.ranges

/-- Whether all that a request refers to can be looked up with a plan, and all that the plan reads in the tables. -/
structure JoinPlan.Serves (p : JoinPlan) (r : Request) : Prop where
  snapshots : ∀ k ∈ p.snapshots, k.IsStored
  ranges : ∀ k ∈ p.ranges, k.IsStored
  columns : ∀ c ∈ r.columns, c.IsWritable r.window p
  conditions : ∀ c ∈ r.conditions, ∀ predicate, c.predicate? r.window = .ok (some predicate) →
    ∀ total ∈ predicate.totals, p.Has total
  levels : ∀ l ∈ p.levels, ∀ counter ∈ LevelSnapshot.counters, p.Has (l.key, counter)

namespace Column

variable {w : Window} {c : Column}

lemma logFilters_ne_nil {edge : Edge} (type : c.type = .logDate edge) : c.logFilters ≠ [] := by
  obtain ⟨_, id, parameter, more, fits⟩ := c
  obtain rfl := type
  match parameter with
  | .scopes (.logFilters (f :: rest)) => exact List.cons_ne_nil f rest
  | .scopes .whole | .scopes (.namespaces _) | .scopes (.changeTags _) | .scopes (.logFilters [])
  | .milestones _ => cases fits

lemma keys_ne_nil {keys : List RangeKey} {edge : Edge} (own : c.expression? w = some (.filterDay keys edge)) :
    keys ≠ [] := by
  unfold expression? at own
  cases type : c.type with
  | logDate edge' =>
    simp only [type, Option.some.injEq, Expression.filterDay.injEq] at own
    obtain ⟨rfl, -⟩ := own
    rw [Ne, List.map_eq_nil_iff]
    exact logFilters_ne_nil type
  | count counter span ratio form => cases ratio <;> simp [type] at own
  | milestone counter => simp only [type] at own; split at own <;> cases own
  | _ => simp [type] at own

lemma milestones_ne_nil {earlier later : Sum} {list : List Int}
    (own : c.expression? w = some (.milestone earlier later list)) : list ≠ [] := by
  unfold expression? at own
  cases type : c.type with
  | milestone counter =>
    simp only [type] at own
    split at own
    · cases own
    · rename_i some
      cases own
      rwa [List.isEmpty_iff] at some
  | count counter span ratio form => cases ratio <;> simp [type] at own
  | _ => simp [type] at own

end Column

lemma Window.dimension_of_mem_needSpan {w : Window} {d : Dimension} {span : Span} {scope : Scope} {k : SnapshotKey}
    (needed : .snapshot k ∈ w.needSpan d span scope) : k.dimension = d := by
  cases span with
  | inPeriod =>
    rcases List.mem_append.1 needed with before | finish
    · unfold needBefore at before
      split at before
      · cases List.mem_singleton.1 before
        rfl
      · cases before
    · cases List.mem_singleton.1 finish
      rfl
  | sinceRegistration =>
    cases List.mem_singleton.1 needed
    rfl

/-- What a condition needs is the actor's. -/
lemma Condition.dimension_of_mem_needs {w : Window} {c : Condition} {list : List Need} (needed : c.needs w = .ok list)
    {k : SnapshotKey} (listed : .snapshot k ∈ list) : k.dimension = .actor := by
  cases c with
  | threshold t =>
    obtain ⟨_, same, own⟩ := t.isSnapshot_of_mem_needs needed listed
    cases same
    exact own
  | milestone counter milestones =>
    cases milestones with
    | nil =>
      cases needed
      cases listed
    | cons m rest =>
      cases needed
      exact Window.dimension_of_mem_needSpan listed
  | level changed ids =>
    cases needed
    cases changed <;> simp [Window.needLevelFinish, Window.needLevelBefore] at listed
  | _ =>
    cases needed
    cases listed

lemma SnapshotKey.isStored_of_actor {k : SnapshotKey} (subject : k.dimension = .actor) : k.IsStored :=
  isStored (subject ▸ Scope.isSnapshot_actor k.scope)

lemma Column.isStored_of_mem_needs {w : Window} {c : Column} (offered : c.type ∈ ColumnType.all) {k : SnapshotKey}
    (needed : .snapshot k ∈ c.needs w) : k.IsStored := by
  rcases snapshot_mem_needs.1 needed with ⟨e, own, reads⟩ | ⟨-, span⟩
  · rw [← e.map_fst_totals] at reads
    obtain ⟨total, read, rfl⟩ := List.mem_map.1 reads
    exact SnapshotKey.isStored (isCounted_of_mem_totals offered own read).1
  · exact SnapshotKey.isStored_of_actor (Window.dimension_of_mem_needSpan span)

namespace JoinPlan

variable {r : Request} {p : JoinPlan}

lemma isStored_of_mem_snapshots (offered : ∀ c ∈ r.columns, c.type ∈ ColumnType.all) (planned : ofRequest r = .ok p)
    {k : SnapshotKey} (listed : k ∈ p.snapshots) : k.IsStored := by
  obtain ⟨required, needed, rfl⟩ := ofRequest_eq_ok.1 planned
  rcases mem_snapshots_ofNeeds.1 listed with own | ⟨l, -, rfl⟩
  · rcases List.mem_append.1 own with column | condition
    · obtain ⟨c, asked, own⟩ := List.mem_flatMap.1 column
      exact c.isStored_of_mem_needs (offered c asked) own
    · obtain ⟨list, mem, own⟩ := List.mem_flatten.1 condition
      obtain ⟨c, -, ok⟩ := (mem_of_mapM_eq_ok needed).1 mem
      exact SnapshotKey.isStored_of_actor (c.dimension_of_mem_needs ok own)
  · exact SnapshotKey.isStored_of_actor rfl

/-- Every column on offer can be written down with the plan of its request. -/
lemma isWritable_of_mem_columns (planned : ofRequest r = .ok p) {c : Column} (offered : c.type ∈ ColumnType.all)
    (asked : c ∈ r.columns) : c.IsWritable r.window p := by
  obtain ⟨required, -, rfl⟩ := ofRequest_eq_ok.1 planned
  have own : ∀ need ∈ c.needs r.window, need ∈ r.columns.flatMap (·.needs r.window) ++ required.flatten :=
    fun need listed => List.mem_append_left _ (List.mem_flatMap.2 ⟨c, asked, listed⟩)
  refine ⟨c.scopes_ne_nil, fun _ _ => Column.keys_ne_nil, fun _ _ _ => Column.milestones_ne_nil, ?_, ?_⟩
  · intro e value total reads
    refine ⟨mem_snapshots_ofNeeds.2 (Or.inl (own _ ?_)), (Column.isCounted_of_mem_totals offered value reads).2⟩
    refine Column.snapshot_mem_needs.2 (Or.inl ⟨e, value, ?_⟩)
    rw [← e.map_fst_totals]
    exact List.mem_map_of_mem reads
  · intro e value key reads
    exact mem_ranges_ofNeeds.2 (own _ (Column.range_mem_needs.2 ⟨e, value, reads⟩))

/-- A plan has every total that a condition on offer reads. -/
lemma has_of_mem_conditions (planned : ofRequest r = .ok p) {c : Condition} (offered : c.criterion ∈ Criterion.all)
    (asked : c ∈ r.conditions) {predicate : Predicate} (built : c.predicate? r.window = .ok (some predicate))
    {total : SnapshotKey × Counter} (reads : total ∈ predicate.totals) : p.Has total := by
  obtain ⟨required, needed, rfl⟩ := ofRequest_eq_ok.1 planned
  obtain ⟨list, mem, own⟩ := exists_of_mapM_eq_ok needed asked
  refine ⟨mem_snapshots_ofNeeds.2 (Or.inl (List.mem_append_right _ (List.mem_flatten.2 ⟨list, mem, ?_⟩))),
    (c.isCounted_of_mem_totals offered built reads).2⟩
  refine (c.snapshot_mem_needs own built).2 ⟨predicate, rfl, ?_⟩
  rw [← predicate.map_fst_totals]
  exact List.mem_map_of_mem reads

/-- The plan of a request with columns and conditions on offer serves it. -/
theorem serves (columns : ∀ c ∈ r.columns, c.type ∈ ColumnType.all)
    (conditions : ∀ c ∈ r.conditions, c.criterion ∈ Criterion.all) (planned : ofRequest r = .ok p) : p.Serves r where
  snapshots _ := isStored_of_mem_snapshots columns planned
  ranges k _ := k.isStored
  columns c asked := isWritable_of_mem_columns planned (columns c asked) asked
  conditions c asked _ built _ := has_of_mem_conditions planned (conditions c asked) asked built
  levels := by
    intro l listed counter _
    obtain ⟨required, -, rfl⟩ := ofRequest_eq_ok.1 planned
    exact ⟨key_mem_ofNeeds listed, (l.isCounted counter).2⟩

end JoinPlan

end ActivityReport
