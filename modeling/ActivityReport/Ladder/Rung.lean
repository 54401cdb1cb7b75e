/-!
# Rungs

A wiki's service awards form a ladder. An actor stands on a rung after exceeding both of its
thresholds: a number of contributions and a number of days with a contribution.
-/

namespace ActivityReport

/-- One rung of a ladder. -/
structure Rung where
  id : String
  label : String
  contributions : Nat
  activeDays : Nat
  deriving DecidableEq, Repr

/-- The rungs of a wiki, as its configuration lists them. -/
abbrev Ladder := List Rung

end ActivityReport
