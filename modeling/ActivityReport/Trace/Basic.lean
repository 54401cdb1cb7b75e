import ActivityReport.Cell.Basic

/-!
# Traces

A computation that writes lines to a log, reads a clock, notes how long its stages took and which keys it
looked up together, and that may fail. What was written before a failure stays written. The clock is a list
of readings in seconds, of which every reading takes the next; a clock that has run out stands at zero.
-/

namespace ActivityReport

/-- How serious a line of the log is. -/
inductive Severity where
  | debug
  | info
  | warning
  | error
  deriving DecidableEq, Repr

/-- The name of a severity. -/
def Severity.name : Severity → String
  | debug => "DEBUG"
  | info => "INFO"
  | warning => "WARNING"
  | error => "ERROR"

/-- A line of the log. -/
structure LogLine where
  severity : Severity
  text : String
  deriving DecidableEq, Repr

/-- What a traced computation leaves behind: its lines, the rest of the clock, the stages that ended
with their milliseconds, the keys of each look-up, and a result or a failure. -/
structure Run (ε α : Type) where
  lines : List LogLine
  clock : List Float
  stages : List (String × Float)
  lookups : List (List Cell)
  result : Except ε α

/-- A computation with a log and a clock. -/
def Traced (ε α : Type) : Type := List Float → Run ε α

namespace Traced

variable {ε α β : Type}

/-- Runs a computation from a reading of the clock on. -/
def run (x : Traced ε α) (clock : List Float) : Run ε α := x clock

/-- A result without a trace. -/
def result (r : Except ε α) : Traced ε α := fun clock => ⟨[], clock, [], [], r⟩

/-- A computation and, when it has a result, what follows. -/
def bind (x : Traced ε α) (next : α → Traced ε β) : Traced ε β := fun clock =>
  let first := x clock
  match first.result with
  | .error e => ⟨first.lines, first.clock, first.stages, first.lookups, .error e⟩
  | .ok a =>
    let second := next a first.clock
    ⟨first.lines ++ second.lines, second.clock, first.stages ++ second.stages,
      first.lookups ++ second.lookups, second.result⟩

instance : Monad (Traced ε) where
  pure a := result (.ok a)
  bind := bind

/-- Fails. -/
def fail (e : ε) : Traced ε α := result (.error e)

/-- Writes lines. -/
def logAll (lines : List LogLine) : Traced ε Unit := fun clock => ⟨lines, clock, [], [], .ok ()⟩

/-- Writes a line. -/
def log (severity : Severity) (text : String) : Traced ε Unit := logAll [⟨severity, text⟩]

/-- Reads the clock. -/
def tick : Traced ε Float := fun clock => ⟨[], clock.tail, [], [], .ok (clock.headD 0)⟩

/-- Notes the milliseconds of a stage. -/
def noteStage (stage : String) (milliseconds : Float) : Traced ε Unit := fun clock =>
  ⟨[], clock, [(stage, milliseconds)], [], .ok ()⟩

/-- Notes the keys of some look-ups. -/
def noteLookups (keys : List (List Cell)) : Traced ε Unit := fun clock => ⟨[], clock, [], keys, .ok ()⟩

/-- A computation as a result of its own: a failure becomes a value. -/
def attempt (x : Traced ε α) : Traced ε (Except ε α) := fun clock =>
  let r := x clock
  ⟨r.lines, r.clock, r.stages, r.lookups, .ok r.result⟩

end Traced

end ActivityReport
