/-!
# Counters

The quantities counted for every actor and every wiki. Each counter takes two columns of a table: the
value of the row's day and the total of all earlier rows of the same subject, so that their sum is the
total as of that day.
-/

namespace ActivityReport

/-- A quantity that the store counts day by day. -/
inductive Counter where
  | edits
  | revertedEdits
  | characterChanges
  | receivedThanks
  | sentThanks
  | logEvents
  | serviceAwardLogEvents
  | activeDays
  deriving DecidableEq, Repr, Inhabited

namespace Counter

/-- All counters, in the order of their columns. -/
def all : List Counter :=
  [.edits, .revertedEdits, .characterChanges, .receivedThanks, .sentThanks, .logEvents,
   .serviceAwardLogEvents, .activeDays]

/-- The name of a counter on the wire. -/
def name : Counter → String
  | .edits => "edits"
  | .revertedEdits => "revertedEdits"
  | .characterChanges => "characterChanges"
  | .receivedThanks => "receivedThanks"
  | .sentThanks => "sentThanks"
  | .logEvents => "logEvents"
  | .serviceAwardLogEvents => "serviceAwardLogEvents"
  | .activeDays => "activeDays"

/-- The words of a counter's name. -/
def words : Counter → List String
  | .edits => ["edits"]
  | .revertedEdits => ["reverted", "edits"]
  | .characterChanges => ["character", "changes"]
  | .receivedThanks => ["received", "thanks"]
  | .sentThanks => ["sent", "thanks"]
  | .logEvents => ["log", "events"]
  | .serviceAwardLogEvents => ["service", "award", "log", "events"]
  | .activeDays => ["active", "days"]

/-- The column that holds the value of the row's day. -/
def dailyColumn : Counter → String
  | .activeDays => "daily_active_day"
  | c => "_".intercalate ("daily" :: c.words)

/-- The column that holds the total of all earlier rows. -/
def toDateColumn (c : Counter) : String := "_".intercalate (c.words ++ ["to", "date"])

/-- The counter with a name. -/
def ofName? (name : String) : Option Counter := all.find? (·.name == name)

/-- Every counter is listed. -/
theorem mem_all (c : Counter) : c ∈ all := by cases c <;> decide

/-- Counters are told apart by their names. -/
theorem ofName?_name (c : Counter) : ofName? c.name = some c := by cases c <;> decide

end Counter

end ActivityReport
