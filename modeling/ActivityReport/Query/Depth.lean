import ActivityReport.Query.Basic

/-!
# Depth of a query

How deep the trees of a query grow when it is written out. Terms that one operator chains up make a tree
that leans to the left: `chainDepth` is its depth. The conditions on an actor and those of all joins make
one chain, and a query that stands inside a condition counts from the root of that chain.
-/

namespace ActivityReport

/-- The depth of terms of some depths, chained by an operator. -/
def chainDepth : List Nat → Nat
  | [] => 0
  | first :: rest => rest.foldl (fun depth term => max depth term + 1) first

/-- The depth of an equation between a column of a table and a value or another column. -/
def equationDepth : Nat := 3

/-- Part of the chain of conditions: its own depth, and the depth of the conditions of a query inside. -/
structure Conjunct where
  depth : Nat
  nested : Nat
  deriving DecidableEq, Repr

namespace Conjunct

/-- A condition without a query inside. -/
def flat (depth : Nat) : Conjunct := ⟨depth, 0⟩

end Conjunct

/-- The depth of a sum. -/
def Sum.depth : Sum → Nat
  | none => 1
  | total .. => 4
  | plus a b | minus a b => max a.depth b.depth + 1

namespace Expression

/-- The depth of the number of days between two times. -/
def daysDepth : Nat := 6

/-- The depth of an expression. -/
def depth : Expression → Nat
  | amount s => s.depth
  | share a b => max (a.depth + 1) (b.depth + 2) + 1
  | milestone earlier later _ => max earlier.depth later.depth + 3
  | activityDay .. | registrationDate => 2
  | filterDay keys _ => if keys.length = 1 then 3 else 4
  | activityDays _ | daysSinceRegistration _ => daysDepth
  | nothing => 1

end Expression

namespace Predicate

/-- The parts that alternatives add to the chain of conditions, each given by the depths of the conditions
it is made of. A single one is no alternative. -/
def alternatives : List (List Nat) → List Conjunct
  | [] => []
  | [single] => single.map Conjunct.flat
  | options => [.flat (chainDepth (options.map chainDepth))]

/-- The parts that a predicate adds to the chain of conditions. -/
def conjuncts : Predicate → List Conjunct
  | positive e => [.flat (e.depth + 1)]
  | status statuses _ => alternatives (statuses.map fun
      | .registered => [equationDepth, equationDepth]
      | .anonymous => [equationDepth])
  | registrationAge .. => [.flat equationDepth, .flat equationDepth, .flat (Expression.daysDepth + 1)]
  | inGroups names => [inGroup names]
  | notInGroups names => [negated (inGroup names)]
  | hasTemplates names => names.map fun _ => hasTemplate
  | hasNoTemplates names => names.map fun _ => negated hasTemplate
  | bound _ value _ => [.flat (value.depth + 1)]
  | crossed earlier later milestones => alternatives (milestones.map fun _ =>
      [later.depth + 1, earlier.depth + 1])
where
  /-- The existence of a membership in one of some groups; when there are none, an empty query stands for
  them. -/
  inGroup (names : List String) : Conjunct :=
    let inside := chainDepth [equationDepth, equationDepth]
    ⟨inside + 1, if names.isEmpty then inside + 2 else inside⟩
  /-- The existence of a template, found in two tables. -/
  hasTemplate : Conjunct :=
    let inside := chainDepth [equationDepth, equationDepth]
    ⟨inside + 1, chainDepth [inside, equationDepth]⟩
  /-- The opposite of a condition. -/
  negated (c : Conjunct) : Conjunct := { c with depth := c.depth + 1 }

end Predicate

/-- The part that a snapshot's join adds to the chain of conditions: equations, and the equation with the
day that is looked up. -/
def SnapshotKey.conjunct (k : SnapshotKey) : Conjunct :=
  let others := k.scope.columnCount + (if k.dimension = .actor then 1 else 0)
  let inside := chainDepth (List.replicate (others + 1) equationDepth)
  ⟨chainDepth (List.replicate others equationDepth ++ [inside + 2]), inside⟩

namespace Query

/-- The chain of all conditions: those on the actor, then those of the joins. -/
def conjuncts (q : Query) : List Conjunct :=
  q.predicates.flatMap Predicate.conjuncts ++ q.plan.snapshots.map SnapshotKey.conjunct ++
    q.plan.ranges.map fun _ => .flat equationDepth

/-- The depth of the chain of all conditions, with the deepest query inside it. -/
def conditionDepth (q : Query) : Nat :=
  chainDepth (q.conjuncts.map Conjunct.depth) + (q.conjuncts.map Conjunct.nested).foldl max 0

/-- The greatest depth of a tree in a query. -/
def depth (q : Query) : Nat :=
  ((q.columns.filterMap id).map Expression.depth).foldl max q.conditionDepth

end Query

end ActivityReport
