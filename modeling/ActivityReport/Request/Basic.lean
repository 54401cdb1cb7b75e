import ActivityReport.Ladder.Rung
import ActivityReport.Request.Column
import ActivityReport.Request.Condition

/-!
# Requests

One request for a report: the wiki, the columns to show, the conditions the listed actors meet, the
order and number of rows, and the window of days. Without columns the report is a list of actors.
-/

namespace ActivityReport

/-- One key of the order of rows. -/
structure OrderBy where
  columnId : String
  descending : Bool
  deriving DecidableEq, Repr

/-- A request for a report. -/
structure Request where
  wikiId : String
  columns : List Column
  requirements : Option Requirement
  orderBy : List OrderBy
  itemCount : Option Nat
  window : Window
  skipBots : Bool
  ladder : Option Ladder
  ordered : ∀ first ∈ window.start, first ≤ window.finish
  deriving DecidableEq, Repr

namespace Request

/-- The conditions of a request. -/
def conditions (r : Request) : List Condition := r.requirements.getD []

/-- The identifiers of the columns, in order. -/
def columnIds (r : Request) : List String := r.columns.mapIdx Column.idAt

/-- The position of the first column with an identifier. -/
def position? (r : Request) (id : String) : Option Nat := r.columnIds.findIdx? (· == id)

/-- Whether a request shows or requires levels. -/
def needsLevels (r : Request) : Bool :=
  r.columns.any Column.isLevel || r.conditions.any Condition.isLevel

/-- Whether a key of the order is a column of groups. -/
def sortsByGroups (r : Request) : Bool :=
  r.orderBy.any fun key =>
    ((r.position? key.columnId).bind fun i => r.columns[i]?).any fun c => c.type == .userGroups

/-- The request for the actors that meet some conditions at a day. -/
def ofConditions (wikiId : String) (requirements : Requirement) (day : Date) : Request where
  wikiId := wikiId
  columns := []
  requirements := some requirements
  orderBy := []
  itemCount := none
  window := ⟨none, day⟩
  skipBots := false
  ladder := none
  ordered := by simp

end Request

end ActivityReport
