import ActivityReport.Schema.Table

/-!
# Scopes

A scope is the part of a subject's activity that a row counts: all of it, the edits in one namespace,
the edits with one change tag (in one namespace or in all), or the log events of one filter. Rows of
different scopes live in different tables (`Scope.tableKind`). `Scopes` is a list of scopes of one
form, as a request gives it; the values of the listed scopes are added up.
-/

namespace ActivityReport

/-- Edits that carry a change tag, in one namespace or in all. -/
structure ChangeTagFilter where
  tag : Int
  inNamespace : Option Int
  deriving DecidableEq, Repr

/-- Log events of a type, of an action, or of a type and an action. -/
inductive LogFilter where
  | ofType (type : String)
  | ofAction (action : String)
  | ofTypeAction (type action : String)
  deriving DecidableEq, Repr

namespace LogFilter

/-- The filter with the given parts, when there is at least one. -/
def ofParts? : Option String → Option String → Option LogFilter
  | some type, some action => some (.ofTypeAction type action)
  | some type, none => some (.ofType type)
  | none, some action => some (.ofAction action)
  | none, none => none

/-- The type a filter asks for. -/
def type? : LogFilter → Option String
  | .ofType type | .ofTypeAction type _ => some type
  | .ofAction _ => none

/-- The action a filter asks for. -/
def action? : LogFilter → Option String
  | .ofAction action | .ofTypeAction _ action => some action
  | .ofType _ => none

/-- A filter is made of its parts. -/
theorem ofParts?_parts (f : LogFilter) : ofParts? f.type? f.action? = some f := by
  cases f <;> rfl

end LogFilter

/-- The part of a subject's activity that a row counts. -/
inductive Scope where
  | whole
  | inNamespace (namespaceId : Int)
  | tagged (filter : ChangeTagFilter)
  | logged (filter : LogFilter)
  deriving DecidableEq, Repr

/-- The kind of the table that holds the rows of a scope. -/
def Scope.tableKind : Scope → TableKind
  | .whole => .daily
  | .inNamespace _ => .byNamespace
  | .tagged ⟨_, none⟩ => .byChangeTag
  | .tagged ⟨_, some _⟩ => .byNamespaceChangeTag
  | .logged (.ofType _) => .byLogType
  | .logged (.ofAction _) => .byLogAction
  | .logged (.ofTypeAction ..) => .byLogTypeAction

/-- The number of columns that tell the rows of a scope apart from others of its table. -/
def Scope.columnCount : Scope → Nat
  | .whole => 0
  | .inNamespace _ | .tagged ⟨_, none⟩ | .logged (.ofType _) | .logged (.ofAction _) => 1
  | .tagged ⟨_, some _⟩ | .logged (.ofTypeAction ..) => 2

/-- The forms of a list of scopes. -/
inductive ScopeForm where
  | whole
  | namespaces
  | changeTags
  | logFilters
  deriving DecidableEq, Repr

/-- A list of scopes of one form. -/
inductive Scopes where
  | whole
  | namespaces (ids : List Int)
  | changeTags (filters : List ChangeTagFilter)
  | logFilters (filters : List LogFilter)
  deriving DecidableEq, Repr

namespace Scopes

/-- The scopes in the order given. -/
def toList : Scopes → List Scope
  | .whole => [.whole]
  | .namespaces ids => ids.map .inNamespace
  | .changeTags filters => filters.map .tagged
  | .logFilters filters => filters.map .logged

/-- The form of the list. -/
def form : Scopes → ScopeForm
  | .whole => .whole
  | .namespaces _ => .namespaces
  | .changeTags _ => .changeTags
  | .logFilters _ => .logFilters

/-- Every listed scope of an un-scoped list is the whole. -/
theorem mem_whole {s : Scope} : s ∈ Scopes.whole.toList ↔ s = .whole := by simp [toList]

end Scopes

/-- Every scope has a table of the actors' counters. -/
theorem Scope.isSnapshot_actor (s : Scope) : s.tableKind.isSnapshot .actor = true := by
  match s with
  | .whole | .inNamespace _ | .tagged ⟨_, none⟩ | .tagged ⟨_, some _⟩ | .logged (.ofType _)
  | .logged (.ofAction _) | .logged (.ofTypeAction ..) => rfl

end ActivityReport
