import ActivityReport.Catalog.Column

/-!
# Columns

A requested column: its type, the parameter that goes with the type, the identifier it is sorted by
and whether it drops rows without a positive value. A column carries a proof that its parameter
fits its type.
-/

namespace ActivityReport

/-- The parameter of a column: the scopes its value is summed over, or the milestones it looks for. -/
inductive Parameter where
  | scopes (s : Scopes)
  | milestones (list : Option (List Int))
  deriving DecidableEq, Repr

/-- Whether a parameter is the one a type asks for; listed scopes must not be empty. -/
def Parameter.fits : ParameterShape → Parameter → Bool
  | .none, .scopes .whole => true
  | .namespaces, .scopes (.namespaces (_ :: _)) => true
  | .changeTags, .scopes (.changeTags (_ :: _)) => true
  | .logFilters, .scopes (.logFilters (_ :: _)) => true
  | .milestones, .milestones _ => true
  | _, _ => false

/-- A requested column. -/
structure Column where
  type : ColumnType
  id : Option String
  parameter : Parameter
  moreThanZero : Bool
  fits : parameter.fits type.shape = true
  deriving DecidableEq, Repr

namespace Column

/-- The scopes a column's value is summed over. -/
def scopes (c : Column) : List Scope :=
  match c.parameter with
  | .scopes s => s.toList
  | .milestones _ => [.whole]

/-- The log filters of a column, in the order given. -/
def logFilters (c : Column) : List LogFilter :=
  match c.parameter with
  | .scopes (.logFilters filters) => filters
  | _ => []

/-- The milestones of a column, in the order given. -/
def milestones (c : Column) : List Int :=
  match c.parameter with
  | .milestones (some list) => list
  | _ => []

/-- Whether a column shows a level. -/
def isLevel (c : Column) : Bool := c.type.levelMoment?.isSome

/-- The name of the column at a position when the request gives it none. -/
def defaultId (i : Int) : String := s!"column{i}"

/-- The identifier of the column at a position; an empty one counts as none. -/
def idAt (i : Nat) (c : Column) : String :=
  match c.id with
  | some "" | none => defaultId i
  | some id => id

/-- A column sums over at least one scope. -/
theorem scopes_ne_nil (c : Column) : c.scopes ≠ [] := by
  obtain ⟨type, id, parameter, more, fits⟩ := c
  match parameter with
  | .scopes .whole => simp [scopes, Scopes.toList]
  | .scopes (.namespaces (_ :: _)) => simp [scopes, Scopes.toList]
  | .scopes (.changeTags (_ :: _)) => simp [scopes, Scopes.toList]
  | .scopes (.logFilters (_ :: _)) => simp [scopes, Scopes.toList]
  | .milestones _ => simp [scopes]
  | .scopes (.namespaces []) | .scopes (.changeTags []) | .scopes (.logFilters []) =>
    cases h : type.shape <;> simp [h, Parameter.fits] at fits

end Column

end ActivityReport
