import ActivityReport.Calendar.Window
import ActivityReport.Catalog.Requirement

/-!
# Conditions

What a request requires of the actors it reports on: a list of conditions that must all hold. A
`Threshold` bounds the value of a counter, summed over scopes, as of a day or over a period that ends
there; the day is named by an epoch, without one it is the last day of the window.
-/

namespace ActivityReport

/-- The two kinds of actor. -/
inductive RegistrationStatus where
  | registered
  | anonymous
  deriving DecidableEq, Repr

namespace RegistrationStatus

/-- The name of a status on the wire. -/
def name : RegistrationStatus → String
  | .registered => "registered"
  | .anonymous => "anon"

/-- Both statuses. -/
def all : List RegistrationStatus := [.registered, .anonymous]

/-- The status with a name. -/
def ofName? (name : String) : Option RegistrationStatus := all.find? (·.name == name)

end RegistrationStatus

/-- A bound on the value of a counter. -/
structure Threshold where
  counter : Counter
  comparison : Comparison
  scopes : Scopes
  count : Int
  /-- The number of days the value is taken over; without it the value is the total. -/
  period : Option Nat
  epoch : Option Epoch
  deriving DecidableEq, Repr

/-- One condition on an actor. -/
inductive Condition where
  | registrationStatus (statuses : List RegistrationStatus)
  | registrationAge (comparison : Comparison) (days : Int)
  | inGroups (names : List String)
  | notInGroups (names : List String)
  | hasTemplates (names : List String)
  | hasNoTemplates (names : List String)
  | threshold (t : Threshold)
  | milestone (counter : Counter) (milestones : List Int)
  | level (changed : Bool) (ids : List String)
  deriving DecidableEq, Repr

namespace Condition

/-- What a condition looks at. -/
def criterion : Condition → Criterion
  | registrationStatus _ => .registrationStatus
  | registrationAge c _ => .registrationAge c
  | inGroups _ => .inGroups
  | notInGroups _ => .notInGroups
  | hasTemplates _ => .hasTemplates
  | hasNoTemplates _ => .hasNoTemplates
  | threshold t => .threshold t.scopes.form t.counter t.period.isSome t.comparison
  | milestone counter _ => .milestone counter
  | level changed _ => .level changed

/-- Whether a condition is about the level of an actor. -/
def isLevel : Condition → Bool
  | level .. => true
  | _ => false

end Condition

/-- Conditions that must all hold, in the order of `Criterion.all`. -/
abbrev Requirement := List Condition

/-- The fields that are set, in order. -/
def Requirement.presentFields (r : Requirement) : List String :=
  r.map (·.criterion.field.other)

end ActivityReport
