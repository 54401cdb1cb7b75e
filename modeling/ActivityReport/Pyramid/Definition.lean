import ActivityReport.Request.Condition

/-!
# Pyramids

A pyramid is a stack of named groups of actors, each given by the conditions its members meet.
-/

namespace ActivityReport

/-- One layer of a pyramid. -/
structure PyramidGroup where
  name : String
  requirements : Requirement
  deriving DecidableEq, Repr

/-- A named stack of groups. -/
structure Pyramid where
  id : String
  name : String
  groups : List PyramidGroup
  deriving DecidableEq, Repr

end ActivityReport
