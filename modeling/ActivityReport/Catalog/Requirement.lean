import ActivityReport.Catalog.Column

/-!
# Requirements on offer

What an actor can be required to meet. A `Criterion` says what a requirement looks at, without the
numbers and names it is compared with; the field a request gives it in follows from that.
`Criterion.all` lists the criteria in the order in which a request lists its requirements.
-/

namespace ActivityReport

/-- The direction of a threshold. -/
inductive Comparison where
  | atLeast
  | atMost
  deriving DecidableEq, Repr

namespace Comparison

/-- The sign of a direction. -/
def symbol : Comparison → String
  | .atLeast => ">="
  | .atMost => "<="

/-- The last words of the names of fields with a threshold. -/
def words : Comparison → List String
  | .atLeast => ["at", "least"]
  | .atMost => ["at", "most"]

/-- Whether a value meets a bound. -/
def holds (c : Comparison) (value bound : Int) : Bool :=
  match c with
  | .atLeast => bound ≤ value
  | .atMost => value ≤ bound

/-- A value is on one side of two neighbouring bounds and not on the other. -/
theorem holds_atLeast_succ (value bound : Int) :
    atLeast.holds value (bound + 1) = !atMost.holds value bound := by
  by_cases h : value ≤ bound
  · have : ¬ bound + 1 ≤ value := by omega
    simp only [holds, h, this, decide_true, decide_false, Bool.not_true]
  · have : bound + 1 ≤ value := by omega
    simp only [holds, h, this, decide_true, decide_false, Bool.not_false]

end Comparison

/-- What a requirement looks at. -/
inductive Criterion where
  | registrationStatus
  | registrationAge (comparison : Comparison)
  | inGroups
  | notInGroups
  | hasTemplates
  | hasNoTemplates
  | threshold (form : ScopeForm) (counter : Counter) (inPeriod : Bool) (comparison : Comparison)
  | milestone (counter : Counter)
  | level (changed : Bool)
  deriving DecidableEq, Repr

namespace Criterion

/-- The words that say which scopes a threshold counts. -/
def scopeWords : ScopeForm → List String
  | .whole => []
  | .namespaces => ["in", "namespace"]
  | .changeTags => ["with", "change", "tag"]
  | .logFilters => ["by", "type"]

/-- The words of the field a criterion is given in. -/
def words : Criterion → List String
  | .registrationStatus => ["registration", "status"]
  | .registrationAge c => ["registration", "age"] ++ c.words
  | .inGroups => ["user", "groups"]
  | .notInGroups => ["not", "in", "user", "groups"]
  | .hasTemplates => ["has", "user", "page", "templates"]
  | .hasNoTemplates => ["has", "no", "user", "page", "templates"]
  | .threshold form counter inPeriod c =>
    (if inPeriod then ["in", "period"] else ["total"]) ++ counter.words ++ scopeWords form ++ c.words
  | .milestone counter => ["total"] ++ counter.words ++ ["milestone", "reached", "in", "period"]
  | .level false => ["has", "level"]
  | .level true => ["has", "level", "and", "changed"]

/-- The field a criterion is given in. -/
def field (c : Criterion) : FieldName := FieldName.ofWords c.words

/-- The name of the way a criterion is judged. -/
def kindName : Criterion → String
  | .registrationStatus => "registrationStatus"
  | .registrationAge _ => "registrationAge"
  | .inGroups => "inUserGroups"
  | .notInGroups => "notInUserGroups"
  | .hasTemplates => "hasTemplates"
  | .hasNoTemplates => "hasNoTemplates"
  | .threshold form _ inPeriod _ =>
    let moment := if inPeriod then "inPeriod" else "total"
    match form with
    | .whole => moment
    | .namespaces => "namespace" ++ FieldName.capitalized moment
    | .changeTags => "changeTag" ++ FieldName.capitalized moment
    | .logFilters => "log" ++ FieldName.capitalized moment
  | .milestone _ => "milestoneInPeriod"
  | .level _ => "level"

/-- The counter a criterion reads. -/
def counter? : Criterion → Option Counter
  | .threshold _ counter .. | .milestone counter => some counter
  | _ => none

/-- The direction of a criterion. -/
def comparison? : Criterion → Option Comparison
  | .registrationAge c | .threshold _ _ _ c => some c
  | _ => none

/-- Whether a criterion asks for a level that changed. -/
def asksForChange : Criterion → Bool
  | .level changed => changed
  | _ => false

/-- The thresholds of one counter over one form of scopes. -/
def thresholds (form : ScopeForm) (counter : Counter) : List Criterion :=
  [.threshold form counter false .atLeast, .threshold form counter false .atMost,
   .threshold form counter true .atLeast, .threshold form counter true .atMost]

/-- The counters with thresholds and milestones of their own. -/
def families : List Counter := [.edits, .revertedEdits, .receivedThanks, .activeDays]

/-- The criteria on offer, in the order in which a request lists them. -/
def all : List Criterion :=
  [.registrationStatus, .registrationAge .atLeast, .registrationAge .atMost, .inGroups, .notInGroups,
   .hasTemplates, .hasNoTemplates] ++
  families.flatMap (thresholds .whole) ++
  families.map .milestone ++
  thresholds .namespaces .edits ++
  thresholds .changeTags .edits ++
  [.level false, .level true]

/-- The criterion on offer with an underscored field name. -/
def ofField? (name : String) : Option Criterion := all.find? (·.field.other == name)

example : all.length = 37 ∧ (all.map words).Nodup := by decide

end Criterion

end ActivityReport
