import ActivityReport.Plan.Basic

/-!
# Expressions

What a query works out for an actor. A `Sum` is a whole number put together from the totals of
snapshots; an `Expression` is the value of a column and a `Predicate` a condition on an actor. They name
the snapshots and ranges they read by their keys.
-/

namespace ActivityReport

/-- A whole number put together from snapshots. -/
inductive Sum where
  | none
  /-- The total of a counter as of a snapshot; without a row it is 0. -/
  | total (key : SnapshotKey) (counter : Counter)
  | plus (a b : Sum)
  | minus (a b : Sum)
  deriving DecidableEq, Repr

/-- The value of a column. -/
inductive Expression where
  | amount (s : Sum)
  /-- A quotient; there is none when the denominator is 0. -/
  | share (numerator denominator : Sum)
  /-- The first milestone above the earlier value that the later value reaches. -/
  | milestone (earlier later : Sum) (milestones : List Int)
  | activityDay (key : RangeKey) (edge : Edge)
  /-- The first or last day of several ranges; a day that stands for "never" takes the place of an
  empty one. -/
  | filterDay (keys : List RangeKey) (edge : Edge)
  | activityDays (key : RangeKey)
  | registrationDate
  | daysSinceRegistration (day : Date)
  | nothing
  deriving DecidableEq, Repr

/-- A condition on an actor. -/
inductive Predicate where
  | positive (e : Expression)
  | status (statuses : List RegistrationStatus) (lastDay : Date)
  | registrationAge (comparison : Comparison) (days : Int) (lastDay : Date)
  | inGroups (names : List String)
  | notInGroups (names : List String)
  | hasTemplates (names : List String)
  | hasNoTemplates (names : List String)
  | bound (comparison : Comparison) (value : Sum) (count : Int)
  | crossed (earlier later : Sum) (milestones : List Int)
  deriving DecidableEq, Repr

namespace Sum

/-- The sum of some sums. -/
def ofList : List Sum → Sum
  | [] => none
  | a :: rest => rest.foldl plus a

/-- The snapshots that a sum reads. -/
def snapshots : Sum → List SnapshotKey
  | none => []
  | total key _ => [key]
  | plus a b | minus a b => a.snapshots ++ b.snapshots

end Sum

namespace Expression

/-- The snapshots that an expression reads. -/
def snapshots : Expression → List SnapshotKey
  | amount s => s.snapshots
  | share a b | milestone a b _ => a.snapshots ++ b.snapshots
  | _ => []

/-- The ranges that an expression reads. -/
def ranges : Expression → List RangeKey
  | activityDay key _ | activityDays key => [key]
  | filterDay keys _ => keys
  | _ => []

/-- The whole numbers that an expression compares with. -/
def parameters : Expression → List Int
  | milestone _ _ milestones => milestones
  | _ => []

end Expression

namespace Predicate

/-- The snapshots that a predicate reads. -/
def snapshots : Predicate → List SnapshotKey
  | positive e => e.snapshots
  | bound _ s _ => s.snapshots
  | crossed a b _ => a.snapshots ++ b.snapshots
  | _ => []

/-- The ranges that a predicate reads. -/
def ranges : Predicate → List RangeKey
  | positive e => e.ranges
  | _ => []

/-- The whole numbers that a predicate compares with. -/
def parameters : Predicate → List Int
  | positive e => e.parameters
  | registrationAge _ days _ => [days]
  | bound _ _ count => [count]
  | crossed _ _ milestones => milestones
  | _ => []

end Predicate

end ActivityReport
