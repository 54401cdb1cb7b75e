import ActivityReport.Pyramid.Definition
import ActivityReport.Report.Compile

/-!
# Populations of a pyramid

How many actors belong to each group of a pyramid at one day, and how many of them belong to the group
before it as well.
-/

namespace ActivityReport

/-- The population of one group. -/
structure GroupPopulation where
  title : String
  population : Nat
  matchingWithPrevious : Nat
  deriving DecidableEq, Repr

/-- The actors of an answer, each once. -/
def Answer.actors : Answer → List Int
  | rows list => firstSeen (list.filterMap fun row => row.id.int?)
  | ids list => firstSeen list

namespace Service

/-- The populations of some groups, the first of which is at a place and follows a group with known
members. -/
def populations (x : Service) (wikiId pyramidId : String) (day : Date) (place : Nat)
    (previous : List Int) : List PyramidGroup → Traced Failure (List GroupPopulation)
  | [] => return []
  | group :: rest => do
    Traced.log .info s!"[PYRAMID] wiki={wikiId} pyramid={pyramidId} group #{place} '{group.name}'"
    let members := (← x.compile none (Request.ofConditions wikiId group.requirements day)).actors
    let entry : GroupPopulation :=
      ⟨group.name, members.length, (members.filter previous.contains).length⟩
    return entry :: (← populations x wikiId pyramidId day (place + 1) members rest)

/-- The populations of a pyramid's groups at a day. -/
def pyramid (x : Service) (wikiId : String) (p : Pyramid) (day : Date) :
    Traced Failure (List GroupPopulation) :=
  x.populations wikiId p.id day 1 [] p.groups

end Service

end ActivityReport
