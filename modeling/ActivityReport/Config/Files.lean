import ActivityReport.Config.Resources
import ActivityReport.Config.Settings
import ActivityReport.Json.Reader
import ActivityReport.Payload.Request

/-!
# Configuration files

The list of known wikis and the ladders of service awards. A wiki without a ladder file has no ladder;
a file that is there but cannot be used is an incident. The list of known wikis must be there.
-/

namespace ActivityReport

namespace FilePath

/-- The file of known wikis. -/
def knownWikis (root : FilePath) : FilePath := (root.join "configuration").join "knownWikis.json"

/-- The file of a wiki's ladder. -/
def serviceAward (root : FilePath) (wikiId : String) : FilePath :=
  ((root.join "configuration").join "serviceAward").join s!"{wikiId}.serviceAwardLevels.json"

end FilePath

/-- A configuration file: its path, what it is called in messages, and the wiki it belongs to. -/
structure ConfigFile where
  path : FilePath
  title : String
  wikiId : Option String

namespace ConfigFile

/-- The file of known wikis in a tree. -/
def knownWikis (r : Resources) : ConfigFile := ⟨r.root.knownWikis, "knownWikis.json", none⟩

/-- The ladder file of a wiki in a tree. -/
def serviceAward (r : Resources) (wikiId : String) : ConfigFile :=
  ⟨r.root.serviceAward wikiId, "serviceAwardLevels.json", some wikiId⟩

/-- An incident with a file. -/
def incident (f : ConfigFile) (message : String) (details : List (String × Json)) : Failure :=
  .incident ⟨.configuration, .text message, (f.wikiId.map Json.text).getD .null, .object details,
    .text f.path.text⟩

/-- The incident of a file whose contents are no JSON text. -/
def unreadable (f : ConfigFile) (reason : String) : Failure :=
  f.incident s!"Error while reading {f.title}: {reason}" []

/-- The value in a file. -/
def value (f : ConfigFile) (bytes : List UInt8) : Except Failure Json := do
  let cs := unifyLineEnds (← (Text.Utf8.decode bytes).mapError fun fault => f.unreadable fault.message)
  (Json.read cs).mapError fun fault =>
    match fault.cause with
    | .tooDeep isList => .tooDeep isList
    | _ => f.unreadable (fault.message cs)

/-- Reads the contents of a file. -/
def read {α : Type} (f : ConfigFile) (reader : Payload.Reader α) (bytes : List UInt8) :
    Except Failure α := do
  match reader (← f.value bytes) with
  | .ok a => return a
  | .refused issues =>
    throw (f.incident s!"Invalid {f.title}: {issues.length} validation errors"
      [("errors", .list (issues.map fun i => .text i.problem.message))])

end ConfigFile

namespace Resources

/-- The contents of a configuration file, when it is there. -/
def contents? (r : Resources) (f : ConfigFile) : Traced Failure (Option (List UInt8)) :=
  Traced.result ((r.file? f.path).mapError Failure.longPath)

/-- The known wikis. -/
def readKnownWikis (r : Resources) : Traced Failure (List KnownWiki) := do
  let f := ConfigFile.knownWikis r
  match ← r.contents? f with
  | none => Traced.fail (f.incident s!"{f.title} does not exist" [])
  | some bytes =>
    let wikis ← Traced.result (f.read Payload.readKnownWikisFile bytes)
    Traced.log .info s!"[CONFIG] Loaded {wikis.length} known wikis"
    return wikis

/-- The known wiki with an identifier. -/
def knownWiki? (r : Resources) (wikiId : String) : Traced Failure (Option KnownWiki) := do
  return (← r.readKnownWikis).find? (·.id == wikiId)

/-- The ladder of a wiki, when it has a file. -/
def readLadder (r : Resources) (wikiId : String) : Traced Failure (Option Ladder) := do
  let f := ConfigFile.serviceAward r wikiId
  match ← r.contents? f with
  | none =>
    Traced.log .debug s!"[CONFIG] No service award levels for {wikiId} at {f.path.text}"
    return none
  | some bytes =>
    let ladder ← Traced.result (f.read Payload.readLadderFile bytes)
    Traced.log .info s!"[CONFIG] Loaded {ladder.length} service award levels for {wikiId}"
    return some ladder

/-- The ladder of a request: its own, else the one of its wiki when levels are used. -/
def resolveLadder (r : Resources) (q : Request) : Traced Failure (Option Ladder) := do
  if q.ladder.isSome then return q.ladder
  if !q.needsLevels then return none
  match ← r.readLadder q.wikiId with
  | none =>
    Traced.log .warning s!"[STATS] No service award ladder for wiki={q.wikiId}; levels will be empty"
    return none
  | some ladder => return some ladder

/-- The bots of a request's wiki that do not carry the bot group, when bots are not counted. -/
def resolveFlaglessBots (r : Resources) (q : Request) : Traced Failure (List String) := do
  if !q.skipBots then return []
  if (← r.contents? (ConfigFile.knownWikis r)).isNone then
    Traced.log .debug s!"[STATS] No knownWikis.json; no flagless bots for wiki={q.wikiId}"
    return []
  match ← r.knownWiki? q.wikiId with
  | none =>
    Traced.log .warning s!"[STATS] wiki={q.wikiId} is not in knownWikis.json; no flagless bots"
    return []
  | some wiki => return wiki.flaglessBots

end Resources

end ActivityReport
