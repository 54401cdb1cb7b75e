import ActivityReport.Json.Display
import ActivityReport.Number.Fixed
import ActivityReport.Trace.Basic

/-!
# Telemetry

How long the stages of a report take. Every stage that ends leaves a line, and so does the report as a
whole; a failed stage names the kind of failure. An interruption leaves no line for the stage it stops.
-/

namespace ActivityReport

/-- One event of a report. -/
structure StageEvent where
  event : String
  wikiId : String
  stage : Option String
  durationMs : Option Float
  success : Bool
  data : List (String × Json)

namespace StageEvent

/-- Why a value is no number of milliseconds. -/
inductive DurationFault where
  | tooLarge
  | text
  | compound (kind : String)
  deriving DecidableEq, Repr

/-- The name of the kind of a fault. -/
def DurationFault.name : DurationFault → String
  | .tooLarge => "OverflowError"
  | .text => "ValueError"
  | .compound _ => "TypeError"

/-- The fault in words. -/
def DurationFault.message : DurationFault → String
  | .tooLarge => "int too large to convert to float"
  | .text => "Unknown format code 'f' for object of type 'str'"
  | .compound kind => s!"unsupported format string passed to {kind}.__format__"

/-- The milliseconds that a value stands for, if any. -/
def readDuration : Json → Except DurationFault (Option Float)
  | .null => .ok none
  | .bool b => .ok (some (if b then 1 else 0))
  | .int n => if Number.isWithinDoubles n then .ok (some (Number.ofInt n)) else .error .tooLarge
  | .float x => .ok (some x)
  | .text _ | .brokenText _ => .error .text
  | j => .error (.compound j.kindName)

/-- The event as fields between bars; what is absent or empty is left out. -/
def line (e : StageEvent) : String :=
  let stage := match e.stage with
    | none | some "" => []
    | some s => [s!"stage={s}"]
  " | ".intercalate
    ([s!"event={e.event}", s!"wiki={e.wikiId}"] ++ stage ++
     e.data.map (fun d => s!"{d.1}={d.2.display}") ++
     e.durationMs.toList.map (fun ms => s!"duration_ms={Number.fixed2 ms}") ++
     (if e.success then [] else ["success=false"]))

/-- The line of the log for an event. -/
def logLine (severity : Severity) (e : StageEvent) : LogLine := ⟨severity, s!"[TELEMETRY] {e.line}"⟩

end StageEvent

/-- What telemetry tells about a failure: the name of its kind, and whether it is an interruption. -/
structure FailureNames (ε : Type) where
  name : ε → String
  interrupts : ε → Bool

namespace Traced

variable {ε α : Type}

/-- The milliseconds from one reading of the clock to another. -/
def milliseconds (started ended : Float) : Float := (ended - started) * 1000

/-- Writes the line of an event that ended well. -/
def logCompleted (event wikiId : String) (stage : Option String) (ms : Float)
    (data : List (String × Json)) : Traced ε Unit :=
  logAll [StageEvent.logLine .info ⟨event, wikiId, stage, some ms, true, data⟩]

/-- Writes the line of an event that failed. -/
def logFailed (event wikiId : String) (stage : Option String) (ms : Float) (kind : String) :
    Traced ε Unit :=
  logAll [StageEvent.logLine .warning ⟨event, wikiId, stage, some ms, false, [("error_type", .text kind)]⟩]

/-- Runs a stage and tells how long it took. -/
def stage (names : FailureNames ε) (wikiId name : String) (body : Traced ε α) : Traced ε α := do
  let started ← tick
  match ← attempt body with
  | .ok a =>
    let ms := milliseconds started (← tick)
    noteStage name ms
    logCompleted "stage.completed" wikiId (some name) ms []
    return a
  | .error e =>
    if names.interrupts e then fail e
    else
      let ms := milliseconds started (← tick)
      noteStage name ms
      logFailed "stage.completed" wikiId (some name) ms (names.name e)
      fail e

/-- Runs a report and tells how long it took and what its number of rows is. -/
def timed (names : FailureNames ε) (wikiId : String) (rows : α → Option Json) (body : Traced ε α) :
    Traced ε α := do
  let started ← tick
  match ← attempt body with
  | .ok a =>
    let data := (rows a).toList.map fun n => ("rows", n)
    logCompleted "statistics.completed" wikiId none (milliseconds started (← tick)) data
    return a
  | .error e =>
    logFailed "statistics.failed" wikiId none (milliseconds started (← tick)) (names.name e)
    fail e

end Traced

/-- The milliseconds of each stage, the last run of a stage counting, ordered by name. -/
def stageTable (stages : List (String × Float)) : List (String × Float) :=
  let latest := stages.foldr
    (fun s kept => if kept.any (·.1 == s.1) then kept else s :: kept) []
  latest.mergeSort fun a b => a.1 ≤ b.1

/-- The interruptions, which are no failures. -/
def interruptionNames : List String :=
  ["KeyboardInterrupt", "SystemExit", "GeneratorExit", "BaseException", "BaseExceptionGroup"]

/-- The kinds of failure by name. -/
def failuresByName : FailureNames String := ⟨id, interruptionNames.contains⟩

/-- Runs stages that end well or with a failure of a given name. -/
def rehearse (wikiId : String) (rows : Option Json) (stages : List (String × Option String)) :
    Traced String Unit :=
  Traced.timed failuresByName wikiId (fun _ => rows) <|
    stages.forM fun s => Traced.stage failuresByName wikiId s.1 <|
      match s.2 with
      | some kind => Traced.fail kind
      | none => pure ()

end ActivityReport
