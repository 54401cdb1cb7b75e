import ActivityReport.Plan.Basic
import ActivityReport.Store.Basic

/-!
# Groups of actors

The groups of many actors at once, asked for in chunks of bounded size. Actors without groups do not
appear in the answer; the groups of an actor are in order.
-/

namespace ActivityReport

/-- Actors with their groups. -/
abbrev GroupMap := List (Int × List String)

namespace GroupMap

/-- The groups of an actor. -/
def groupsOf (m : GroupMap) (actorId : Int) : List String :=
  match m.find? (·.1 == actorId) with
  | some entry => entry.2
  | none => []

/-- Adds a group at the end of an actor's groups. -/
def add (m : GroupMap) (membership : Int × String) : GroupMap :=
  match m with
  | [] => [(membership.1, [membership.2])]
  | entry :: rest =>
    if entry.1 = membership.1 then (entry.1, entry.2 ++ [membership.2]) :: rest
    else entry :: add rest membership

end GroupMap

/-- A list cut into pieces of `n + 1` items. -/
def chunks {α : Type} (n : Nat) (list : List α) : List (List α) :=
  match list with
  | [] => []
  | a :: rest => (a :: rest.take n) :: chunks n (rest.drop n)
termination_by list.length
decreasing_by
  simp only [List.length_drop, List.length_cons]
  omega

namespace Store

/-- The order of memberships: by actor, then by the name of the group. -/
def membershipLe (a b : Int × String) : Bool := a.1 < b.1 || (a.1 == b.1 && a.2 ≤ b.2)

/-- The memberships of some actors, in order. -/
def membershipsOf (s : Store) (ids : List Int) : List (Int × String) :=
  (s.groups.filter fun g => ids.contains g.1).mergeSort membershipLe

/-- The groups of the listed actors, asked for in chunks of `chunk` actors (at least one). -/
def fetchGroups (s : Store) (chunk : Nat) (ids : List Int) : GroupMap :=
  ((chunks (chunk - 1) (firstSeen ids)).flatMap s.membershipsOf).foldl GroupMap.add []

end Store

end ActivityReport
