import ActivityReport.Calendar.Window
import ActivityReport.Cell.Typed
import ActivityReport.Config.Resources
import ActivityReport.Failure.Incident
import ActivityReport.Json.Reader
import ActivityReport.Payload.Issue
import ActivityReport.Query.Basic
import ActivityReport.Report.Row
import ActivityReport.Trace.Telemetry

/-!
# Failures

All the ways in which a report can fail. Every failure has the name of its kind, which telemetry tells,
and a message.
-/

namespace ActivityReport

/-- How a database refuses a query. -/
inductive Refusal where
  /-- The query cannot be run on its tables. -/
  | unusable
  /-- The text of the query holds a null character. -/
  | nullCharacter
  /-- The name of a table holds the mark of a value that is to be filled in, and there is no such value. -/
  | placeholder
  deriving DecidableEq, Repr

/-- The name of a kind of refusal. -/
def Refusal.name : Refusal → String
  | unusable => "OperationalError"
  | nullCharacter => "ProgrammingError"
  | placeholder => "StatementError"

/-- A way in which a report fails. -/
inductive Failure where
  | query (f : QueryFault)
  /-- A level cannot be worked out. -/
  | level (f : LevelFault)
  /-- Two cells of a column by which rows are ordered cannot be compared. -/
  | order (f : OrderFault)
  /-- A whole number of the request does not fit the database. -/
  | wideInteger
  /-- The database refuses the query. -/
  | database (f : Refusal)
  | incident (i : Incident)
  /-- A row is reached whose groups were not looked up, in counting or only in writing. -/
  | ungrouped (counting : Bool)
  /-- Groups are to be looked up for no actors at a time. -/
  | emptyChunk
  /-- A configuration file has too long a path. -/
  | longPath (f : Resources.LongPath)
  /-- A configuration file is nested too deeply. -/
  | tooDeep (isList : Bool)
  /-- A column has no label, not even an empty one. -/
  | unlabelled
  /-- Something cannot be looked up. -/
  | key (f : Cell.KeyFault)
  /-- A value stands for no cell. -/
  | cell (f : Cell.TypedFault)
  /-- A row lacks a value that every row has. -/
  | missingValue (name : String)
  /-- A payload is refused. -/
  | refused (model : String) (issues : List Issue)
  | noDatabaseUrl
  /-- A value of another kind stands where a text belongs. -/
  | noText (kind : String)

namespace Failure

/-- The name of the kind of a failure. -/
def name : Failure → String
  | query (.day _) => "OverflowError"
  | query .emptySum => "TypeError"
  | level f => f.name
  | order f => f.name
  | wideInteger => "OverflowError"
  | database f => f.name
  | incident i => i.kind.failureName
  | ungrouped _ => "TypeError"
  | emptyChunk => "ValueError"
  | longPath _ => "OSError"
  | tooDeep _ => "RecursionError"
  | unlabelled => "IndexError"
  | key _ => "TypeError"
  | cell f => f.name
  | missingValue _ => "KeyError"
  | refused .. => "ValidationError"
  | noDatabaseUrl => "RuntimeError"
  | noText _ => "AttributeError"

/-- The failure in words. -/
def message : Failure → String
  | query f => f.message
  | level f => f.message
  | order f => f.message
  | wideInteger => "Python int too large to convert to SQLite INTEGER"
  | database _ => "the database refuses the query"
  | incident i => i.text
  | ungrouped counting =>
    if counting then "argument of type 'NoneType' is not iterable" else "'NoneType' object is not iterable"
  | emptyChunk => "range() arg 3 must not be zero"
  | longPath f => f.message
  | tooDeep isList => (Json.Cause.tooDeep isList).message
  | unlabelled => "tuple index out of range"
  | key f => f.message
  | cell f => f.message
  | missingValue name => Text.quoted name
  | refused model issues => s!"{model}: {issues.length}"
  | noDatabaseUrl =>
    "DATABASE_URL is not set. Ensure backend/.env is loaded or env var is exported."
  | noText kind => s!"'{kind}' object has no attribute 'upper'"

/-- What telemetry tells about a failure; none is an interruption. -/
def names : FailureNames Failure := ⟨name, fun _ => false⟩

end Failure

end ActivityReport
