import ActivityReport.Payload.Field
import ActivityReport.Request.Condition

/-!
# Conditions of a payload

Readers of scopes, thresholds and requirements. A plain whole number is short for a total threshold of
that count.
-/

namespace ActivityReport.Payload

open Checked

namespace Name

def changeTagId : FieldName := .ofWords ["change", "tag", "id"]
def inNamespace : FieldName := .ofWords ["namespace"]
def logType : FieldName := .ofWords ["log", "type"]
def logAction : FieldName := .ofWords ["log", "action"]
def changeTag : FieldName := .ofWords ["change", "tag"]
def count : FieldName := ⟨"count", "edits"⟩
def period : FieldName := .ofWords ["period"]
def epoch : FieldName := .ofWords ["epoch"]

end Name

/-- Reads a filter by change tag. -/
def readChangeTagFilter : Reader ChangeTagFilter :=
  readStrict "ChangeTagFilter" [Name.changeTagId, Name.inNamespace] fun entries =>
    ChangeTagFilter.mk <$> required entries Name.changeTagId readInteger <*>
      possible entries Name.inNamespace readInteger

/-- Reads a filter of log events. -/
def readLogFilter : Reader LogFilter := fun j =>
  (readStrict "LogFilter" [Name.logType, Name.logAction] (fun entries =>
    Prod.mk <$> possible entries Name.logType readText <*>
      possible entries Name.logAction readText) j).andThen fun (type, action) =>
    match LogFilter.ofParts? type action with
    | some f => ok f
    | none => problem (.rule .emptyLogFilter)

/-- The field in which a threshold lists scopes of a form. -/
def scopeFields : ScopeForm → List FieldName
  | .whole | .logFilters => []
  | .namespaces => [Name.inNamespace]
  | .changeTags => [Name.changeTag]

/-- Reads the scopes of a threshold. -/
def readScopes (form : ScopeForm) (entries : Entries) : Checked Scopes :=
  match form with
  | .whole | .logFilters => ok .whole
  | .namespaces => Scopes.namespaces <$> required entries Name.inNamespace (readMany readInteger)
  | .changeTags => Scopes.changeTags <$> required entries Name.changeTag (readMany readChangeTagFilter)

/-- The model that a threshold belongs to. -/
def thresholdModel (form : ScopeForm) (inPeriod : Bool) : String :=
  (match form with
    | .whole => ""
    | .namespaces => "Namespace"
    | .changeTags => "ChangeTag"
    | .logFilters => "Log") ++ (if inPeriod then "PeriodThreshold" else "TotalThreshold")

/-- Reads the period of a threshold that has one. -/
def readPeriod (inPeriod : Bool) (entries : Entries) : Checked (Option Nat) :=
  if inPeriod then some <$> required entries Name.period readNatural else ok none

/-- Reads a threshold. -/
def readThreshold (form : ScopeForm) (counter : Counter) (inPeriod : Bool) (comparison : Comparison) :
    Reader Threshold :=
  readStrict (thresholdModel form inPeriod)
    (scopeFields form ++ [Name.count] ++ (if inPeriod then [Name.period] else []) ++ [Name.epoch])
    fun entries =>
      Threshold.mk counter comparison <$> readScopes form entries <*>
        required entries Name.count readInteger <*> readPeriod inPeriod entries <*>
        defaulted entries Name.epoch none readEpoch

/-- A whole number stands for a threshold of that count. -/
def expandCount : Json → Json
  | .int n => .object [("count", .int n)]
  | j => j

/-- Reads what a criterion is compared with. -/
def readCondition : Criterion → Reader Condition
  | .registrationStatus, j =>
    .registrationStatus <$>
      readMany (readName (RegistrationStatus.all.map RegistrationStatus.name) RegistrationStatus.ofName?) j
  | .registrationAge c, j => .registrationAge c <$> readInteger j
  | .inGroups, j => .inGroups <$> readMany readText j
  | .notInGroups, j => .notInGroups <$> readMany readText j
  | .hasTemplates, j => .hasTemplates <$> readMany readText j
  | .hasNoTemplates, j => .hasNoTemplates <$> readMany readText j
  | .threshold .whole counter false c, j =>
    .threshold <$> readThreshold .whole counter false c (expandCount j)
  | .threshold form counter inPeriod c, j => .threshold <$> readThreshold form counter inPeriod c j
  | .milestone counter, j => .milestone counter <$> readList readInteger j
  | .level changed, j => .level changed <$> readMany readText j

/-- Reads a requirement. -/
def readRequirement : Reader Requirement :=
  readStrict "EligibilityRequirement" (Criterion.all.map Criterion.field) fun entries =>
    (·.filterMap id) <$> Checked.all (fun c => possible entries c.field (readCondition c)) Criterion.all

end ActivityReport.Payload
