import ActivityReport.Query.Depth

/-!
# Limits of a query

A database refuses a query that is too deep, gives a function too many arguments, selects too many columns or
has too many places where a value is filled in. Every number, day and name that a query compares with is
filled in, and so is the 0 that stands for a total without a row; a place counts as often as it is written.
-/

namespace ActivityReport

/-- The number of values filled into a sum. -/
def Sum.places : Sum → Nat
  | none | total .. => 1
  | plus a b | minus a b => a.places + b.places

namespace Expression

/-- The greatest number of arguments of a function in an expression. -/
def arity : Expression → Nat
  | filterDay keys _ => keys.length
  | _ => 0

/-- The number of values filled into an expression. A denominator is compared with 0, and each milestone
stands in two comparisons and as a result. -/
def places : Expression → Nat
  | amount s => s.places
  | share a b => a.places + b.places + 1
  | milestone earlier later milestones => milestones.length * (earlier.places + later.places + 3)
  | filterDay keys _ => keys.length
  | daysSinceRegistration _ => 1
  | activityDay .. | activityDays _ | registrationDate | nothing => 0

end Expression

/-- The number of values filled into a predicate. -/
def Predicate.places : Predicate → Nat
  | positive e => e.places + 1
  | status statuses _ => statuses.countP (· == .registered)
  | registrationAge .. => 3
  | inGroups names | notInGroups names | hasTemplates names | hasNoTemplates names => names.length
  | bound _ value _ => value.places + 1
  | crossed earlier later milestones => milestones.length * (earlier.places + later.places + 2)

/-- The number of values filled into the join of a snapshot, whose scope stands in it twice. -/
def SnapshotKey.places (k : SnapshotKey) : Nat := 2 * k.scope.columnCount + 1

/-- The number of values filled into the join of a range: besides its scope the day and a 0. -/
def RangeKey.places (k : RangeKey) : Nat := k.source.scope.columnCount + 2

namespace Query

/-- The greatest number of arguments of a function in a query. -/
def arity (q : Query) : Nat := ((q.columns.filterMap id).map Expression.arity).foldl max 0

/-- The number of values filled into a query. -/
def places (q : Query) : Nat :=
  ((q.columns.filterMap id).map Expression.places ++ q.plan.levels.map (fun s => s.labels.length) ++
    q.predicates.map Predicate.places ++ q.plan.snapshots.map SnapshotKey.places ++
    q.plan.ranges.map RangeKey.places).foldl (· + ·) 0

/-- Whether a query stays within the limits of the database: trees of depth 1000, functions of 127
arguments, 2000 selected columns, and 32766 values filled in. -/
def isWithinLimits (q : Query) : Bool :=
  q.depth ≤ 1000 && q.arity ≤ 127 && q.columnNames.length ≤ 2000 && q.places ≤ 32766

end Query

end ActivityReport
