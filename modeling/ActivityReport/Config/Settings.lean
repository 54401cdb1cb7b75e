import ActivityReport.Failure.Basic
import ActivityReport.Payload.Scalar

/-!
# Settings

The settings of the program, read from environment variables. The case of a variable's name does not
matter; of two spellings the later one counts. What is not set has a default.
-/

namespace ActivityReport

/-- Environment variables, in order. -/
abbrev Environment := List (String × String)

/-- The settings of the program. -/
structure Settings where
  databaseUrl : Option String
  /-- The root of the resources tree. -/
  resourcesPath : String
  /-- The end of every table's name, which tells the version of the tables. -/
  tableNameSuffix : String
  logLevel : String
  /-- Whether the text of queries is logged as information. -/
  logSql : Bool
  botGroupName : String
  deriving DecidableEq, Repr

namespace Environment

/-- A name in lower case. -/
def lowered (name : String) : String := String.ofList (name.toList.map Char.toLower)

/-- The value of a variable, whatever the case of its name. -/
def value? (e : Environment) (name : String) : Option String :=
  (e.reverse.find? fun v => lowered v.1 == lowered name).map Prod.snd

/-- The value of a variable with exactly this name. -/
def exactValue? (e : Environment) (name : String) : Option String :=
  (e.reverse.find? fun v => v.1 == name).map Prod.snd

end Environment

namespace Settings

/-- A text that is there and not empty. -/
def nonempty? (s : Option String) : Option String := s.filter (· ≠ "")

/-- The settings made by some environment variables. -/
def ofEnvironment (e : Environment) : Except Failure Settings :=
  match (e.value? "LOG_SQL").map Payload.boolOfText with
  | some (.refused issues) => .error (.refused "Settings" (issues.map (Issue.under "LOG_SQL")))
  | logSql => .ok {
      databaseUrl := e.value? "DATABASE_URL"
      resourcesPath := (e.value? "RESOURCES_PATH").getD "resources"
      tableNameSuffix := (e.value? "TABLE_NAME_SUFFIX").getD "_v2"
      logLevel := (e.value? "LOG_LEVEL").getD "INFO"
      logSql := match logSql with
        | some (.ok b) => b
        | _ => false
      botGroupName := (e.value? "BOT_GROUP_NAME").getD "bot" }

/-- The address of the database. -/
def requireDatabaseUrl (s : Settings) (e : Environment) : Except Failure String :=
  match nonempty? s.databaseUrl, nonempty? (e.exactValue? "DATABASE_URL") with
  | some url, _ => .ok url
  | none, some url => .ok url
  | none, none => .error .noDatabaseUrl

/-- The kind of database that an address names: the part before a plus sign or a colon. -/
def dialect (url : String) : String :=
  String.ofList (url.toList.takeWhile fun c => c != '+' && c != ':')

/-- How the tables of a wiki are named. -/
def naming (s : Settings) (wikiId : String) : Naming := ⟨wikiId, s.tableNameSuffix⟩

end Settings

/-! ## Log levels -/

/-- The form of a line of the log. -/
def logFormat : String := "%(asctime)s %(levelname)s %(name)s %(message)s"

/-- What a name stands for in the log. -/
inductive LogWord where
  /-- A level, by its number. -/
  | level (n : Nat)
  /-- A form of lines. -/
  | form (pattern : String)
  deriving DecidableEq, Repr

/-- The words of the log: the levels by name, and the basic form of a line. -/
def logWords : List (String × LogWord) :=
  [("CRITICAL", .level 50), ("FATAL", .level 50), ("ERROR", .level 40), ("WARNING", .level 30),
   ("WARN", .level 30), ("INFO", .level 20), ("DEBUG", .level 10), ("NOTSET", .level 0),
   ("BASIC_FORMAT", .form "%(levelname)s:%(name)s:%(message)s")]

/-- The upper case of the letters that stand in the words of the log; a dotless i, a long s and some
ligatures have an upper case in ASCII too. -/
def upperCase (c : Char) : List Char :=
  match c.toNat with
  | 0x131 => ['I']
  | 0x17F => ['S']
  | 0xDF => ['S', 'S']
  | 0xFB00 => ['F', 'F']
  | 0xFB01 => ['F', 'I']
  | 0xFB02 => ['F', 'L']
  | 0xFB03 => ['F', 'F', 'I']
  | 0xFB04 => ['F', 'F', 'L']
  | 0xFB05 | 0xFB06 => ['S', 'T']
  | _ => [c.toUpper]

/-- What a name in upper or lower case stands for; a name that is no word of the log means information. -/
def logWord (name : String) : LogWord :=
  let wanted := String.ofList (name.toList.flatMap upperCase)
  ((logWords.find? (·.1 == wanted)).map Prod.snd).getD (.level 20)

/-- The log level that is asked for, else the one of the settings; a value of another kind than text, when
it is filled in, is a failure. -/
def Settings.logLevelFor (s : Settings) (asked : Json) : Except Failure LogWord :=
  if !asked.isFilled then .ok (logWord s.logLevel)
  else match asked with
    | .text name | .brokenText name => .ok (logWord name)
    | j => .error (.noText j.kindName)

end ActivityReport
