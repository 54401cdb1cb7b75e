import ActivityReport.Calendar.Date
import ActivityReport.Schema.Scope

/-!
# The counter store

What the tables of one wiki hold: the actors, the daily counters of actors and of the whole wiki by
scope, the groups of actors and the templates on their user pages. A `CounterRow` belongs to an actor,
or to the wiki when it names none, and counts the activity in its scope; its value as of its day is the
total of all earlier rows plus the value of the day.
-/

namespace ActivityReport

/-- An account or an address that made edits. Of the time of registration only the day matters. -/
structure Actor where
  id : Int
  name : String
  isRegistered : Bool
  registration : Option Date
  deriving DecidableEq, Repr

/-- The counters of one subject, scope and day. -/
structure CounterRow where
  subject : Option Int
  scope : Scope
  date : Date
  daily : Counter → Int
  toDate : Counter → Int

/-- The contents of the tables of one wiki. -/
structure Store where
  actors : List Actor
  counters : List CounterRow
  /-- Actors and the names of their groups. -/
  groups : List (Int × String)
  /-- Actors and the names of the templates on their user pages. -/
  templates : List (Int × String)

namespace Store

/-- A store without rows. -/
def empty : Store := ⟨[], [], [], []⟩

/-- The rows of two stores together. -/
def append (s t : Store) : Store :=
  ⟨s.actors ++ t.actors, s.counters ++ t.counters, s.groups ++ t.groups, s.templates ++ t.templates⟩

/-- Whether an actor is a member of one of some groups. -/
def isInGroups (s : Store) (actorId : Int) (names : List String) : Bool :=
  s.groups.any fun g => g.1 == actorId && names.contains g.2

/-- Whether an actor's user page has a template. -/
def hasTemplate (s : Store) (actorId : Int) (name : String) : Bool :=
  s.templates.contains (actorId, name)

/-- The rows of a subject and scope; a subject that is no actor is the wiki. -/
def rowsOf (s : Store) (subject : Option Int) (scope : Scope) : List CounterRow :=
  s.counters.filter fun r => r.subject == subject && r.scope == scope

/-- No two rows of a table share their key. -/
structure WellKeyed (s : Store) : Prop where
  actors : (s.actors.map Actor.id).Nodup
  counters : (s.counters.map fun r => (r.subject, r.scope, r.date)).Nodup
  groups : s.groups.Nodup
  templates : s.templates.Nodup

/-- In every row the total of earlier rows is the sum of their daily values. -/
def Consistent (s : Store) : Prop :=
  ∀ r ∈ s.counters, ∀ c : Counter,
    r.toDate c = ((s.rowsOf r.subject r.scope).filter (·.date < r.date)).foldr (·.daily c + ·) 0

end Store

end ActivityReport
