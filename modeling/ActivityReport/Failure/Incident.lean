import ActivityReport.Json.Display

/-!
# Incidents

What can go wrong once a request has been read, in the form in which it is reported: a configuration file
that cannot be used, or a database that fails the query. The details are for the log; users of the
report are told nothing about the database.
-/

namespace ActivityReport

/-- The two kinds of incident. -/
inductive IncidentKind where
  | query
  | configuration
  deriving DecidableEq, Repr

namespace IncidentKind

/-- The code of a kind. -/
def code : IncidentKind → String
  | query => "STATS_031"
  | configuration => "STATS_001"

/-- The family of a kind. -/
def category : IncidentKind → String
  | query => "resource"
  | configuration => "configuration"

/-- The message of an incident that has none of its own. -/
def defaultMessage : IncidentKind → String
  | query => "Statistics query failed"
  | configuration => "Invalid configuration"

/-- The name of a kind of failure. -/
def failureName : IncidentKind → String
  | query => "StatisticsQueryError"
  | configuration => "ConfigurationError"

end IncidentKind

/-- One incident. What it tells are values for the log, as a rule texts and an object of details; a wiki,
details or a path that are not filled in count as absent. -/
structure Incident where
  kind : IncidentKind
  message : Json
  wikiId : Json
  details : Json
  path : Json
  deriving Repr

namespace Incident

/-- An incident with nothing but its kind. -/
def ofKind (kind : IncidentKind) : Incident := ⟨kind, .text kind.defaultMessage, .null, .object [], .null⟩

/-- The incident in one line. -/
def text (i : Incident) : String :=
  let place := if i.wikiId.isFilled then s!"{i.wikiId.display}: " else ""
  let file := if i.kind = .configuration ∧ i.path.isFilled then s!" ({i.path.display})" else ""
  s!"[{i.kind.code}] {place}{i.message.display}{file}"

/-- What users are told. -/
def userMessage (i : Incident) : Json :=
  match i.kind with
  | .query => .text "Unable to compute statistics."
  | .configuration => i.message

/-- The incident as an object for the log. -/
def toJson (i : Incident) : Json :=
  .object ([("code", .text i.kind.code), ("message", i.message), ("category", .text i.kind.category),
    ("severity", .text "error")] ++
    (if i.wikiId.isFilled then [("wiki", i.wikiId)] else []) ++
    (if i.details.isFilled then [("details", i.details)] else []))

end Incident

/-! ## Incidents from fields -/

/-- Why some fields make no incident. -/
inductive IncidentFault where
  /-- The kind has no field of this name. -/
  | unknownField (kind : IncidentKind) (name : String)
  /-- A value of the given kind stands where a code, a family or a severity belongs. -/
  | notAName (kind : String)
  deriving DecidableEq, Repr

namespace IncidentFault

/-- The name of the kind of a fault. -/
def name : IncidentFault → String
  | unknownField .. => "TypeError"
  | notAName _ => "AttributeError"

/-- The fault in words. -/
def message : IncidentFault → String
  | unknownField kind name =>
    s!"{kind.failureName}.__init__() got an unexpected keyword argument '{name}'"
  | notAName kind => s!"'{kind}' object has no attribute 'value'"

end IncidentFault

namespace Incident

/-- The fields that tell the kind of an incident, in the order in which they are looked at. -/
def namingFields : List String := ["code", "category", "severity"]

/-- The fields of an incident of a kind. -/
def fieldNames (kind : IncidentKind) : List String :=
  namingFields ++ ["message", "wiki_id", "details"] ++ (if kind = .configuration then ["path"] else [])

/-- The incident of a kind with some fields. What tells the kind is no value, so no value can be given for
it. -/
def ofFields (kind : IncidentKind) (fields : List (String × Json)) : Except IncidentFault Incident :=
  match fields.find? fun f => !(fieldNames kind).contains f.1 with
  | some (name, _) => .error (.unknownField kind name)
  | none =>
    match namingFields.filterMap (Json.lookup? · fields) with
    | value :: _ => .error (.notAName value.kindName)
    | [] =>
      let value (name : String) (absent : Json) : Json := (Json.lookup? name fields).getD absent
      let plain := ofKind kind
      .ok ⟨kind, value "message" plain.message, value "wiki_id" plain.wikiId,
        value "details" plain.details, value "path" plain.path⟩

end Incident

end ActivityReport
