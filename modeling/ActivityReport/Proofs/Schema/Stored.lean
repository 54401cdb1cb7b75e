import ActivityReport.Catalog.Requirement
import ActivityReport.Plan.Key
import ActivityReport.Request.Column
import Mathlib.Tactic.Lemma

/-!
# What the tables hold

Whether a table has the columns that a key asks for. The rows of a snapshot are found by the columns of its
subject and of its scope, and each counter takes two columns. Not every table counts every counter, but for
everything in the catalogues there is a table that does (`ColumnType.isCounted`, `Criterion.isCounted`).
-/

namespace ActivityReport

namespace Table

/-- The table of a subject and a kind. -/
def of? (d : Dimension) (k : TableKind) : Option Table := all.find? fun t => t.dimension == d && t.kind == k

/-- Whether the table of a subject and a kind has some columns. -/
def Has (d : Dimension) (k : TableKind) (names : List String) : Prop :=
  ∃ t ∈ of? d k, ∀ name ∈ names, name ∈ t.columns.map TableColumn.name

instance (d : Dimension) (k : TableKind) (names : List String) : Decidable (Has d k names) :=
  inferInstanceAs (Decidable (∃ t ∈ of? d k, _))

end Table

/-- The columns by which the rows of a subject are found. -/
def Dimension.columns : Dimension → List String
  | .actor => ["actor_id", "date"]
  | .wiki => ["date"]

/-- The columns that tell the rows of a scope apart from others of its table. -/
def Scope.columns : Scope → List String
  | .whole => []
  | .inNamespace _ => ["namespace"]
  | .tagged ⟨_, none⟩ => ["change_tag_id"]
  | .tagged ⟨_, some _⟩ => ["change_tag_id", "namespace"]
  | .logged (.ofType _) => ["log_type"]
  | .logged (.ofAction _) => ["log_action"]
  | .logged (.ofTypeAction ..) => ["log_type", "log_action"]

/-- The columns are as many as the limits of the database count for the scope. -/
lemma Scope.length_columns (s : Scope) : s.columns.length = s.columnCount := by
  match s with
  | .whole | .inNamespace _ | .tagged ⟨_, none⟩ | .tagged ⟨_, some _⟩ | .logged (.ofType _)
  | .logged (.ofAction _) | .logged (.ofTypeAction ..) => rfl

/-! ## Keys -/

/-- Whether a snapshot can be joined: under every naming its table has a name, and it has the columns by which the
rows are found. -/
structure SnapshotKey.IsStored (k : SnapshotKey) : Prop where
  named : ∀ n : Naming, ∃ name, n.snapshotName k.dimension k.scope.tableKind = .ok name
  found : Table.Has k.dimension k.scope.tableKind (k.dimension.columns ++ k.scope.columns)

/-- Whether the table of a snapshot has the two columns of a counter. -/
def SnapshotKey.Counts (k : SnapshotKey) (counter : Counter) : Prop :=
  Table.Has k.dimension k.scope.tableKind [counter.toDateColumn, counter.dailyColumn]

/-- Whether a range can be joined: under every naming the table of its events has a name, and it has the columns by
which the rows are found and the daily values of its counter. -/
structure RangeKey.IsStored (k : RangeKey) : Prop where
  named : ∀ n : Naming, ∃ name, n.snapshotName .actor k.source.scope.tableKind = .ok name
  found : Table.Has .actor k.source.scope.tableKind
    (k.source.counter.dailyColumn :: Dimension.actor.columns ++ k.source.scope.columns)

lemma Naming.exists_snapshotName {d : Dimension} {k : TableKind} (snapshot : k.isSnapshot d = true) (n : Naming) :
    ∃ name, n.snapshotName d k = .ok name := by
  obtain ⟨stem, named⟩ := Option.isSome_iff_exists.1 (TableKind.stem?_isSome_of_isSnapshot snapshot)
  refine ⟨n.physicalName stem, ?_⟩
  unfold snapshotName tableName
  rw [if_pos snapshot, named]

/-- What is kept of a scope in a table of daily counters is found there. -/
lemma SnapshotKey.isStored {k : SnapshotKey} (snapshot : k.scope.tableKind.isSnapshot k.dimension = true) :
    k.IsStored := by
  refine ⟨Naming.exists_snapshotName snapshot, ?_⟩
  obtain ⟨d, boundary, day, scope⟩ := k
  match scope with
  | .whole | .inNamespace _ | .tagged ⟨_, none⟩ | .tagged ⟨_, some _⟩ | .logged (.ofType _)
  | .logged (.ofAction _) | .logged (.ofTypeAction ..) =>
    cases d with
    | actor => exact of_decide_eq_true rfl
    | wiki => first | exact of_decide_eq_true rfl | cases snapshot

/-- The days of an activity, and those of every filter of log events, are found. -/
lemma RangeKey.isStored (k : RangeKey) : k.IsStored := by
  refine ⟨Naming.exists_snapshotName (Scope.isSnapshot_actor _), ?_⟩
  obtain ⟨source, day⟩ := k
  match source with
  | .activity .edits | .activity .logEvents | .logFilter (.ofType _) | .logFilter (.ofAction _)
  | .logFilter (.ofTypeAction ..) => exact of_decide_eq_true rfl

/-! ## Catalogues -/

/-- The kinds of the tables in which scopes of a form are counted. -/
def ScopeForm.kinds : ScopeForm → List TableKind
  | .whole => [.daily]
  | .namespaces => [.byNamespace]
  | .changeTags => [.byChangeTag, .byNamespaceChangeTag]
  | .logFilters => [.byLogType, .byLogAction, .byLogTypeAction]

/-- Whether a subject's counter is counted for every scope of a form. -/
def ScopeForm.Counts (form : ScopeForm) (d : Dimension) (counter : Counter) : Prop :=
  ∀ k ∈ form.kinds, k.isSnapshot d = true ∧ Table.Has d k [counter.toDateColumn, counter.dailyColumn]

instance (form : ScopeForm) (d : Dimension) (counter : Counter) : Decidable (form.Counts d counter) :=
  inferInstanceAs (Decidable (∀ k ∈ form.kinds, _))

lemma Scopes.tableKind_mem_kinds {s : Scopes} {scope : Scope} (listed : scope ∈ s.toList) :
    scope.tableKind ∈ s.form.kinds := by
  cases s with
  | whole =>
    rw [Scopes.mem_whole.1 listed]
    decide
  | namespaces ids =>
    obtain ⟨id, -, rfl⟩ := List.mem_map.1 listed
    exact List.mem_singleton.2 rfl
  | changeTags filters =>
    obtain ⟨⟨tag, inNamespace⟩, -, rfl⟩ := List.mem_map.1 listed
    cases inNamespace <;> simp [Scope.tableKind, form, ScopeForm.kinds]
  | logFilters filters =>
    obtain ⟨f, -, rfl⟩ := List.mem_map.1 listed
    cases f <;> simp [Scope.tableKind, form, ScopeForm.kinds]

lemma Column.tableKind_mem_kinds {c : Column} {counter : Counter} {span : Span} {ratio : Ratio} {form : ScopeForm}
    (type : c.type = .count counter span ratio form) {scope : Scope} (listed : scope ∈ c.scopes) :
    scope.tableKind ∈ form.kinds := by
  obtain ⟨_, id, parameter, more, fits⟩ := c
  obtain rfl := type
  have same : ∀ s, parameter = .scopes s → s.form = form := by
    rintro s rfl
    cases form <;> cases s <;> first | rfl | cases fits
  cases parameter with
  | milestones list => cases form <;> cases fits
  | scopes s =>
    rw [← same s rfl]
    exact Scopes.tableKind_mem_kinds listed

/-- Every counter of an actor's whole activity is counted. -/
lemma Counter.counts_whole (counter : Counter) : ScopeForm.whole.Counts .actor counter := by
  cases counter <;> decide +kernel

/-- Whether the counters that a column type reads are counted: the actor's own, and the wiki's for a share of it. -/
def ColumnType.IsCounted : ColumnType → Prop
  | .count counter _ ratio form => form.Counts .actor counter ∧ (ratio = .wikiTotal → form.Counts .wiki counter)
  | _ => True

instance : DecidablePred ColumnType.IsCounted
  | .count counter _ ratio form =>
    inferInstanceAs (Decidable (form.Counts .actor counter ∧ (ratio = .wikiTotal → form.Counts .wiki counter)))
  | .rowNumber | .userName | .userGroups | .logDate _ | .activityDate .. | .activityDays _ | .registrationDate
  | .daysSinceRegistration | .averagePerDay .. | .level _ | .milestone _ => inferInstanceAs (Decidable True)

/-- Every column on offer reads counters that are counted. -/
theorem ColumnType.isCounted : ∀ type ∈ all, type.IsCounted := by decide +kernel

/-- Whether the counter that a criterion reads is counted. -/
def Criterion.IsCounted : Criterion → Prop
  | .threshold form counter _ _ => form.Counts .actor counter
  | _ => True

instance : DecidablePred Criterion.IsCounted
  | .threshold form counter _ _ => inferInstanceAs (Decidable (form.Counts .actor counter))
  | .registrationStatus | .registrationAge _ | .inGroups | .notInGroups | .hasTemplates | .hasNoTemplates
  | .milestone _ | .level _ => inferInstanceAs (Decidable True)

/-- Every threshold on offer reads a counter that is counted. -/
theorem Criterion.isCounted : ∀ criterion ∈ all, criterion.IsCounted := by decide +kernel

end ActivityReport
