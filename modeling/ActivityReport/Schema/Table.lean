import ActivityReport.Schema.Counter
import ActivityReport.Text.Quoted

/-!
# Tables

The tables of one wiki. A table is named by its subject (`Dimension`) and by what its rows are told
apart by (`TableKind`); its physical name is the wiki, the stem of the pair and a suffix that numbers
the version of the schema. `Table.all` lists the tables with their columns.
-/

namespace ActivityReport

/-- The subject of a row. -/
inductive Dimension where
  | actor
  | wiki
  deriving DecidableEq, Repr

/-- What the rows of a table are told apart by, besides subject and day. -/
inductive TableKind where
  | identity
  | groups
  | daily
  | byNamespace
  | byChangeTag
  | byNamespaceChangeTag
  | byLogType
  | byLogAction
  | byLogTypeAction
  | userPageTemplates
  | templates
  deriving DecidableEq, Repr

namespace Dimension

/-- All dimensions. -/
def all : List Dimension := [.actor, .wiki]

/-- The name of a dimension. -/
def name : Dimension → String
  | .actor => "actor"
  | .wiki => "wiki"

/-- The dimension with a name. -/
def ofName? (name : String) : Option Dimension := all.find? (·.name == name)

end Dimension

namespace TableKind

/-- All kinds of table. -/
def all : List TableKind :=
  [.identity, .groups, .daily, .byNamespace, .byChangeTag, .byNamespaceChangeTag, .byLogType,
   .byLogAction, .byLogTypeAction, .userPageTemplates, .templates]

/-- The name of a kind. -/
def name : TableKind → String
  | .identity => "identity"
  | .groups => "groups"
  | .daily => "daily"
  | .byNamespace => "namespace"
  | .byChangeTag => "changeTag"
  | .byNamespaceChangeTag => "namespaceChangeTag"
  | .byLogType => "logType"
  | .byLogAction => "logAction"
  | .byLogTypeAction => "logTypeAction"
  | .userPageTemplates => "userPageTemplates"
  | .templates => "templates"

/-- The kind with a name. -/
def ofName? (name : String) : Option TableKind := all.find? (·.name == name)

/-- The middle part of the name of a subject's table; not every pair has one. -/
def stem? : Dimension → TableKind → Option String
  | .actor, .identity => some "actor"
  | .actor, .groups => some "actor_groups"
  | .actor, .daily => some "actor_daily_stats"
  | .wiki, .daily => some "daily_stats"
  | .actor, .byNamespace => some "actor_daily_stats_by_ns"
  | .wiki, .byNamespace => some "daily_stats_by_ns"
  | .actor, .byChangeTag => some "actor_edit_stats_by_ct"
  | .actor, .byNamespaceChangeTag => some "actor_edit_stats_by_nsct"
  | .actor, .byLogType => some "actor_log_stats_by_lt"
  | .actor, .byLogAction => some "actor_log_stats_by_la"
  | .actor, .byLogTypeAction => some "actor_log_stats_by_ltla"
  | .actor, .userPageTemplates => some "actor_user_page_templates"
  | .wiki, .templates => some "templates"
  | _, _ => none

/-- Whether a subject has a table of daily counters of this kind. -/
def isSnapshot : Dimension → TableKind → Bool
  | .actor, .daily | .actor, .byNamespace | .actor, .byChangeTag | .actor, .byNamespaceChangeTag
  | .actor, .byLogType | .actor, .byLogAction | .actor, .byLogTypeAction => true
  | .wiki, .daily | .wiki, .byNamespace => true
  | _, _ => false

end TableKind

/-- Why no table is meant. -/
inductive TableFault where
  | unknownDimension (name : String)
  | unknownKind (name : String)
  /-- A value that is no text stands for a subject or a kind. -/
  | unlikeDimension (literal : String)
  | unlikeKind (literal : String)
  | noTable (d : Dimension) (k : TableKind)
  | noSnapshot (d : Dimension) (k : TableKind)
  | unknownRole (name : String)
  /-- The name means something else than a table, of a certain kind. -/
  | notATable (kind : String)
  deriving DecidableEq, Repr

/-- The name of the kind of a fault: a name that leads to no table lacks an attribute, any other fault is a
bad value. -/
def TableFault.name : TableFault → String
  | .unknownRole _ | .notATable _ => "AttributeError"
  | _ => "ValueError"

/-- The fault in words. -/
def TableFault.message : TableFault → String
  | .unknownDimension name => s!"{Text.quoted name} is not a valid Dimension"
  | .unknownKind name => s!"{Text.quoted name} is not a valid TableKind"
  | .unlikeDimension literal => s!"{literal} is not a valid Dimension"
  | .unlikeKind literal => s!"{literal} is not a valid TableKind"
  | .noTable d k => s!"No statistics table for dimension={d.name} kind={k.name}"
  | .noSnapshot d k => s!"No snapshot table for dimension={d.name} kind={k.name}"
  | .unknownRole name => s!"'WikiTables' object has no attribute '{name}'"
  | .notATable kind => s!"'{kind}' object has no attribute 'name'"

/-- A subject and a kind, each read from its name. -/
def readTableKey (dimension kind : String) : Except TableFault (Dimension × TableKind) :=
  match Dimension.ofName? dimension, TableKind.ofName? kind with
  | none, _ => .error (.unknownDimension dimension)
  | _, none => .error (.unknownKind kind)
  | some d, some k => .ok (d, k)

/-- How the tables of a wiki are named: the wiki and the version suffix. -/
structure Naming where
  wiki : String
  suffix : String
  deriving DecidableEq, Repr

namespace Naming

/-- The physical name of the table with a stem. -/
def physicalName (n : Naming) (stem : String) : String := s!"{n.wiki}_{stem}{n.suffix}"

/-- The physical name of a table. -/
def tableName (n : Naming) (d : Dimension) (k : TableKind) : Except TableFault String :=
  match k.stem? d with
  | some stem => .ok (n.physicalName stem)
  | none => .error (.noTable d k)

/-- The physical name of a table of daily counters. -/
def snapshotName (n : Naming) (d : Dimension) (k : TableKind) : Except TableFault String :=
  if k.isSnapshot d then n.tableName d k else .error (.noSnapshot d k)

/-- The physical name of the table of actors. -/
def actorTable (n : Naming) : String := n.physicalName "actor"

/-- The table of actors is named like the others. -/
theorem tableName_actor_identity (n : Naming) : n.tableName .actor .identity = .ok n.actorTable := rfl

/-- Whether a null character would end up in the text of a query. -/
def hasNull (n : Naming) : Bool := n.actorTable.toList.contains '\x00'

end Naming

/-- A text with its ASCII letters in lower case. -/
def asciiLower (s : String) : String := String.ofList (s.toList.map Char.toLower)

/-- Whether two names mean the same table; the case of ASCII letters does not matter. -/
def isSameName (a b : String) : Bool := asciiLower a == asciiLower b

/-! ## Columns -/

/-- The types of columns. -/
inductive ColumnClass where
  | integer
  | varchar (size : Nat)
  | boolean
  | date
  | datetime
  deriving DecidableEq, Repr

/-- The type as it is written in a table definition. -/
def ColumnClass.text : ColumnClass → String
  | .integer => "INTEGER"
  | .varchar size => s!"VARCHAR({size})"
  | .boolean => "BOOLEAN"
  | .date => "DATE"
  | .datetime => "DATETIME"

/-- One column of a table. -/
structure TableColumn where
  name : String
  type : ColumnClass
  nullable : Bool
  inKey : Bool
  deriving DecidableEq, Repr

/-- One table: the name it is asked for by, its subject and kind, and its columns. -/
structure Table where
  role : String
  dimension : Dimension
  kind : TableKind
  columns : List TableColumn
  deriving DecidableEq, Repr

namespace Table

/-- A column of the primary key. -/
def keyColumn (name : String) (type : ColumnClass) : TableColumn := ⟨name, type, false, true⟩

/-- A column outside the primary key. -/
def plainColumn (name : String) (type : ColumnClass) (nullable : Bool) : TableColumn :=
  ⟨name, type, nullable, false⟩

/-- The pairs of columns of some counters. -/
def counterColumns (counters : List Counter) : List TableColumn :=
  counters.flatMap fun c =>
    [plainColumn c.dailyColumn .integer false, plainColumn c.toDateColumn .integer false]

/-- The key column of actors. -/
def actorKey : TableColumn := keyColumn "actor_id" .integer

/-- The counters of the tables by namespace. -/
def namespaceCounters : List Counter := [.edits, .revertedEdits, .characterChanges, .logEvents]

/-- The counters of the tables by change tag. -/
def changeTagCounters : List Counter := [.edits, .characterChanges]

/-- A table of daily counters with the given key columns before its day. -/
def counting (role : String) (d : Dimension) (k : TableKind) (keys : List TableColumn)
    (counters : List Counter) : Table :=
  ⟨role, d, k,
   (if d = .actor then [actorKey] else []) ++ keys ++ keyColumn "date" .date :: counterColumns counters⟩

/-- The tables of a wiki. -/
def all : List Table :=
  let ns := keyColumn "namespace" .integer
  let tag := keyColumn "change_tag_id" .integer
  let logType := keyColumn "log_type" (.varchar 32)
  let logAction := keyColumn "log_action" (.varchar 32)
  let page := keyColumn "template_page_id" .integer
  [⟨"actor", .actor, .identity,
    [actorKey, plainColumn "actor_name" (.varchar 255) false, plainColumn "is_registered" .boolean false,
     plainColumn "registration_timestamp" .datetime true, plainColumn "first_edit_timestamp" .datetime true,
     plainColumn "last_edit_timestamp" .datetime true,
     plainColumn "first_log_entry_timestamp" .datetime true,
     plainColumn "last_log_entry_timestamp" .datetime true]⟩,
   ⟨"actor_groups", .actor, .groups, [actorKey, keyColumn "group_name" (.varchar 255)]⟩,
   counting "actor_daily" .actor .daily [] Counter.all,
   counting "wiki_daily" .wiki .daily [] Counter.all,
   counting "actor_namespace" .actor .byNamespace [ns] namespaceCounters,
   counting "wiki_namespace" .wiki .byNamespace [ns] namespaceCounters,
   counting "actor_change_tag" .actor .byChangeTag [tag] changeTagCounters,
   counting "actor_namespace_change_tag" .actor .byNamespaceChangeTag [ns, tag] changeTagCounters,
   counting "actor_log_type" .actor .byLogType [logType] [.logEvents],
   counting "actor_log_action" .actor .byLogAction [logAction] [.logEvents],
   counting "actor_log_type_action" .actor .byLogTypeAction [logType, logAction] [.logEvents],
   ⟨"actor_user_page_templates", .actor, .userPageTemplates, [actorKey, page]⟩,
   ⟨"templates", .wiki, .templates, [page, plainColumn "template_name" (.varchar 255) false]⟩]

/-- What is kept beside the tables of a wiki, by name, and of which kind it is. -/
def besides : List (String × String) :=
  [("wiki_id", "str"), ("metadata", "MetaData"), ("snapshot_table", "function")]

/-- The table asked for by a name. -/
def ofRole (role : String) : Except TableFault Table :=
  match all.find? (·.role == role), besides.find? (·.1 == role) with
  | some t, _ => .ok t
  | none, some (_, kind) => .error (.notATable kind)
  | none, none => .error (.unknownRole role)

end Table

/-- A subject's counters of a kind have a table name exactly when they have a snapshot table. -/
theorem TableKind.stem?_isSome_of_isSnapshot {d : Dimension} {k : TableKind} (h : k.isSnapshot d = true) :
    (k.stem? d).isSome = true := by
  cases d <;> cases k <;> simp_all [isSnapshot, stem?]

end ActivityReport
