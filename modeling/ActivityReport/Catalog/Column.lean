import ActivityReport.Catalog.FieldName
import ActivityReport.Schema.Scope

/-!
# Column types

The columns a report can show. A column type says how its values come about; its wire tag, the type of
its values and the parameter that goes with it follow from that. `ColumnType.all` is the catalogue of
the columns on offer, and `ColumnType.ofTag?` looks a tag up in it.
-/

namespace ActivityReport

/-- Over which days a value is taken. -/
inductive Span where
  | inPeriod
  | sinceRegistration
  deriving DecidableEq, Repr

/-- What a value is divided by. -/
inductive Ratio where
  | none
  | wikiTotal
  | ownTotalEdits
  deriving DecidableEq, Repr

/-- The activity whose first and last days are shown. -/
inductive Activity where
  | edits
  | logEvents
  deriving DecidableEq, Repr

/-- The first or the last of several days. -/
inductive Edge where
  | first
  | last
  deriving DecidableEq, Repr

/-- What a level column shows. -/
inductive LevelMoment where
  | start
  | finish
  | finishWithChange
  | sortOrder
  deriving DecidableEq, Repr

/-- What a column shows, without its parameter. -/
inductive ColumnType where
  | rowNumber
  | userName
  | userGroups
  | count (counter : Counter) (span : Span) (ratio : Ratio) (form : ScopeForm)
  | logDate (edge : Edge)
  | activityDate (activity : Activity) (edge : Edge)
  | activityDays (activity : Activity)
  | registrationDate
  | daysSinceRegistration
  | averagePerDay (counter : Counter) (span : Span)
  | level (moment : LevelMoment)
  | milestone (counter : Counter)
  deriving DecidableEq, Repr

/-- The type of a column's values. -/
inductive ValueType where
  | integer
  | float
  | date
  | text
  | textList
  | level
  | levelWithChange
  | counter
  deriving DecidableEq, Repr

/-- The parameter that goes with a column type. -/
inductive ParameterShape where
  | none
  | namespaces
  | changeTags
  | logFilters
  | milestones
  deriving DecidableEq, Repr

/-! ## Names on the wire -/

/-- The name of a span. -/
def Span.name : Span → String
  | .inPeriod => "inPeriod"
  | .sinceRegistration => "sinceRegistration"

/-- The name of a ratio. -/
def Ratio.name : Ratio → String
  | .none => "none"
  | .wikiTotal => "wikiTotal"
  | .ownTotalEdits => "ownTotalEdits"

/-- The name of an activity. -/
def Activity.name : Activity → String
  | .edits => "edits"
  | .logEvents => "logEvents"

/-- The activity's events, one of them. -/
def Activity.singular : Activity → String
  | .edits => "Edit"
  | .logEvents => "LogEvent"

/-- The counter of an activity. -/
def Activity.counter : Activity → Counter
  | .edits => .edits
  | .logEvents => .logEvents

/-- The name of a level moment. -/
def LevelMoment.name : LevelMoment → String
  | .start => "start"
  | .finish => "end"
  | .finishWithChange => "endWithChange"
  | .sortOrder => "sortOrder"

/-- The name of a value type. -/
def ValueType.name : ValueType → String
  | .integer => "integer"
  | .float => "float"
  | .date => "date"
  | .text => "text"
  | .textList => "textList"
  | .level => "level"
  | .levelWithChange => "levelWithChange"
  | .counter => "counter"

/-- The name of a parameter, which is also the field it is given in. -/
def ParameterShape.name : ParameterShape → String
  | .none => "none"
  | .namespaces => "namespace"
  | .changeTags => "changeTag"
  | .logFilters => "logFilter"
  | .milestones => "milestones"

/-- The parameter that lists scopes of a form. -/
def ScopeForm.shape : ScopeForm → ParameterShape
  | .whole => .none
  | .namespaces => .namespaces
  | .changeTags => .changeTags
  | .logFilters => .logFilters

namespace ColumnType

/-- The wire tag of a column type. -/
def tag : ColumnType → String
  | .rowNumber => "counter"
  | .userName => "userName"
  | .userGroups => "userGroups"
  | .count counter span ratio form =>
    counter.name ++ (if form = .namespaces then "InNamespace" else "") ++
      FieldName.capitalized span.name ++
      (match form with
        | .changeTags => "ByChangeTag"
        | .logFilters => "ByType"
        | _ => "") ++
      (match ratio with
        | .none => ""
        | .wikiTotal => "PercentageToWikiTotal"
        | .ownTotalEdits => "PercentageToOwnTotalEdits")
  | .logDate .first => "firstLogEventDateByType"
  | .logDate .last => "lastLogEventDateByType"
  | .activityDate activity .first => "first" ++ activity.singular ++ "Date"
  | .activityDate activity .last => "last" ++ activity.singular ++ "Date"
  | .activityDays activity => "daysBetweenFirstAndLast" ++ activity.singular
  | .registrationDate => "registrationDate"
  | .daysSinceRegistration => "daysSinceRegistration"
  | .averagePerDay counter span =>
    "average" ++ FieldName.capitalized counter.name ++ "PerDay" ++ FieldName.capitalized span.name
  | .level .start => "levelAtPeriodStart"
  | .level .finish => "levelAtPeriodEnd"
  | .level .finishWithChange => "levelAtPeriodEndWithChange"
  | .level .sortOrder => "levelSortOrder"
  | .milestone counter => counter.name ++ "SinceRegistrationMilestone"

/-- The name of the way a column is computed. -/
def kindName : ColumnType → String
  | .rowNumber | .userName | .userGroups => "postProcessed"
  | .count _ _ _ .whole => "counter"
  | .count _ _ _ .namespaces => "namespaceCounter"
  | .count _ _ _ .changeTags => "changeTagCounter"
  | .count _ _ _ .logFilters => "logCounter"
  | .logDate _ => "logDate"
  | .activityDate .. => "activityDate"
  | .activityDays _ => "activityDaysBetween"
  | .registrationDate => "registrationDate"
  | .daysSinceRegistration => "daysSinceRegistration"
  | .averagePerDay .. => "averagePerDay"
  | .level _ => "level"
  | .milestone _ => "milestone"

/-- The type of a column's values. -/
def valueType : ColumnType → ValueType
  | .rowNumber => .counter
  | .userName => .text
  | .userGroups => .textList
  | .count _ _ .none _ => .integer
  | .count .. => .float
  | .logDate _ | .activityDate .. | .registrationDate => .date
  | .activityDays _ | .daysSinceRegistration => .integer
  | .averagePerDay .. => .float
  | .level .sortOrder => .float
  | .level .finishWithChange => .levelWithChange
  | .level _ => .level
  | .milestone _ => .integer

/-- The parameter that goes with a column type. -/
def shape : ColumnType → ParameterShape
  | .count _ _ _ form => form.shape
  | .logDate _ => .logFilters
  | .milestone _ => .milestones
  | _ => .none

/-- The counter a column reads. -/
def counter? : ColumnType → Option Counter
  | .count counter .. | .averagePerDay counter _ | .milestone counter => some counter
  | _ => none

/-- The span a column is taken over. -/
def span? : ColumnType → Option Span
  | .count _ span .. | .averagePerDay _ span => some span
  | .milestone _ => some .sinceRegistration
  | _ => none

/-- What a column's value is divided by. -/
def ratio : ColumnType → Ratio
  | .count _ _ ratio _ => ratio
  | _ => .none

/-- The name of the activity whose days a column shows. -/
def activityName? : ColumnType → Option String
  | .logDate _ => some "logFilter"
  | .activityDate activity _ | .activityDays activity => some activity.name
  | _ => none

/-- Whether a column of days shows the last one. -/
def isLast : ColumnType → Bool
  | .logDate .last | .activityDate _ .last => true
  | _ => false

/-- What a level column shows. -/
def levelMoment? : ColumnType → Option LevelMoment
  | .level moment => some moment
  | _ => none

/-! ## The catalogue -/

/-- The columns of one counter over one form of scopes, with each of some ratios. -/
def counts (form : ScopeForm) (counter : Counter) (ratios : List Ratio) : List ColumnType :=
  [Span.inPeriod, .sinceRegistration].flatMap fun span => ratios.map (.count counter span · form)

/-- The columns on offer. -/
def all : List ColumnType :=
  [.rowNumber, .userName, .userGroups] ++
  counts .whole .edits [.none, .wikiTotal] ++
  counts .whole .revertedEdits [.none, .wikiTotal, .ownTotalEdits] ++
  counts .whole .characterChanges [.none, .wikiTotal] ++
  counts .whole .receivedThanks [.none, .wikiTotal] ++
  counts .whole .sentThanks [.none, .wikiTotal] ++
  counts .whole .logEvents [.none, .wikiTotal] ++
  counts .whole .activeDays [.none] ++
  counts .namespaces .edits [.none, .wikiTotal, .ownTotalEdits] ++
  counts .namespaces .revertedEdits [.none, .wikiTotal, .ownTotalEdits] ++
  counts .namespaces .characterChanges [.none, .wikiTotal] ++
  counts .changeTags .edits [.none] ++
  counts .changeTags .characterChanges [.none] ++
  counts .logFilters .logEvents [.none] ++
  [.logDate .first, .logDate .last, .registrationDate, .daysSinceRegistration] ++
  [Activity.edits, .logEvents].flatMap
    (fun activity => [.activityDate activity .first, .activityDate activity .last, .activityDays activity]) ++
  [Counter.edits, .logEvents].flatMap
    (fun counter => [.averagePerDay counter .inPeriod, .averagePerDay counter .sinceRegistration]) ++
  [.level .start, .level .finish, .level .finishWithChange, .level .sortOrder] ++
  [Counter.edits, .revertedEdits, .characterChanges, .receivedThanks, .sentThanks, .logEvents,
    .activeDays].map .milestone

/-- The column on offer with a tag. -/
def ofTag? (tag : String) : Option ColumnType := all.find? (·.tag == tag)

/-- A tag that is found belongs to a column on offer. -/
theorem ofTag?_eq_some {tag : String} {t : ColumnType} (h : ofTag? tag = some t) : t ∈ all ∧ t.tag = tag :=
  ⟨List.mem_of_find?_eq_some h, by simpa using List.find?_some h⟩

example : all.length = 78 := by decide

end ColumnType

end ActivityReport
