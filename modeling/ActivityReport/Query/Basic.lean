import ActivityReport.Query.Expression
import ActivityReport.Schema.Table

/-!
# Queries

The query of a request: the plan of what is read, the value of every column and the conditions that an
actor must meet. A query fails to be built when a day lies outside the calendar or when a threshold lists
no scope to sum over.
-/

namespace ActivityReport

/-- Why no query is built. -/
inductive QueryFault where
  | day (f : DayFault)
  | emptySum
  deriving DecidableEq, Repr

/-- The fault in words. -/
def QueryFault.message : QueryFault → String
  | .day f => f.message
  | .emptySum => "reduce() of empty iterable with no initial value"

namespace Window

/-- The total at the last day. -/
def atFinish (w : Window) (d : Dimension) (counter : Counter) (scope : Scope) : Sum :=
  .total ⟨d, .finish, w.finish, scope⟩ counter

/-- The total strictly before the first day; nothing lies before a window without one. -/
def atStart (w : Window) (d : Dimension) (counter : Counter) (scope : Scope) : Sum :=
  match w.start with
  | some first => .total ⟨d, .before, first, scope⟩ counter
  | none => .none

/-- The value of a counter over a span. -/
def overSpan (w : Window) (d : Dimension) (span : Span) (counter : Counter) (scope : Scope) : Sum :=
  match span with
  | .inPeriod => .minus (w.atFinish d counter scope) (w.atStart d counter scope)
  | .sinceRegistration => w.atFinish d counter scope

/-- The value of a counter over a span, summed over scopes. -/
def overScopes (w : Window) (d : Dimension) (span : Span) (counter : Counter) (scopes : List Scope) : Sum :=
  .ofList (scopes.map (w.overSpan d span counter))

end Window

/-- The value that a query works out for a column; the others are filled in from the rows. -/
def Column.expression? (w : Window) (c : Column) : Option Expression :=
  match c.type with
  | .rowNumber | .userName | .userGroups | .level _ => none
  | .count counter span ratio _ =>
    let value := w.overScopes .actor span counter c.scopes
    some <| match ratio with
    | .none => .amount value
    | .wikiTotal => .share value (w.overScopes .wiki span counter c.scopes)
    | .ownTotalEdits => .share value (w.overSpan .actor span .edits .whole)
  | .logDate edge => some (.filterDay (c.logFilters.map fun f => ⟨.logFilter f, w.finish⟩) edge)
  | .activityDate a edge => some (.activityDay ⟨.activity a, w.finish⟩ edge)
  | .activityDays a => some (.activityDays ⟨.activity a, w.finish⟩)
  | .registrationDate => some .registrationDate
  | .daysSinceRegistration => some (.daysSinceRegistration w.finish)
  | .averagePerDay counter span =>
    some (.share (w.overSpan .actor span counter .whole) (w.overSpan .actor span .activeDays .whole))
  | .milestone counter =>
    if c.milestones.isEmpty then some .nothing
    else some (.milestone (w.atStart .actor counter .whole) (w.atFinish .actor counter .whole) c.milestones)

/-- The predicate that only rows with a positive value are kept. -/
def Column.predicates (w : Window) (c : Column) : List Predicate :=
  if c.moreThanZero then (c.expression? w).toList.map .positive else []

/-- A sum over scopes, of which there must be one. -/
def sumOverScopes (value : Scope → Sum) (scopes : List Scope) : Except QueryFault Sum :=
  if scopes.isEmpty then .error .emptySum else .ok (.ofList (scopes.map value))

/-- The predicate of a threshold; there is none when its epoch names no day. -/
def Threshold.predicate? (w : Window) (t : Threshold) : Except QueryFault (Option Predicate) :=
  let boundBy (value : Scope → Sum) : Except QueryFault (Option Predicate) := do
    let s ← sumOverScopes value t.scopes.toList
    return some (.bound t.comparison s t.count)
  match t.period with
  | none => do
    match ← (w.resolve t.epoch).mapError .day with
    | none => return none
    | some day => boundBy fun scope => .total ⟨.actor, .finish, day, scope⟩ t.counter
  | some period => do
    match ← (w.bounds period t.epoch).mapError .day with
    | none => return none
    | some (first, last) =>
      boundBy fun scope =>
        .minus (.total ⟨.actor, .finish, last, scope⟩ t.counter)
          (.total ⟨.actor, .before, first, scope⟩ t.counter)

/-- Checks that the day after the last one exists; registration is compared with it. -/
def Window.checkNextDay (w : Window) : Except QueryFault Unit :=
  ((fun _ => ()) <$> w.finish.later 1).mapError .day

/-- The predicate of a condition; levels are judged after the query. -/
def Condition.predicate? (w : Window) : Condition → Except QueryFault (Option Predicate)
  | registrationStatus statuses => do
    if statuses.contains .registered then w.checkNextDay
    return some (.status statuses w.finish)
  | registrationAge c days => do
    w.checkNextDay
    return some (.registrationAge c days w.finish)
  | inGroups names => .ok (some (.inGroups names))
  | notInGroups names => .ok (some (.notInGroups names))
  | hasTemplates names => .ok (some (.hasTemplates names))
  | hasNoTemplates names => .ok (some (.hasNoTemplates names))
  | threshold t => t.predicate? w
  | milestone _ [] => .ok none
  | milestone counter milestones =>
    .ok (some (.crossed (w.atStart .actor counter .whole) (w.atFinish .actor counter .whole) milestones))
  | level .. => .ok none

/-- The labels of the values that a query selects. -/
inductive Label where
  | column (position : Nat)
  | levelTotal (snapshot : LevelSnapshot) (counter : Counter)
  deriving DecidableEq, Repr

namespace Label

/-- The text of a label. -/
def text : Label → String
  | column i => Column.defaultId i
  | levelTotal s counter => s!"{s.labelStem}_{counter.name}"

end Label

namespace LevelSnapshot

/-- The counters that decide a level. -/
def counters : List Counter := [.edits, .logEvents, .activeDays]

/-- The labels of the totals of a snapshot. -/
def labels (s : LevelSnapshot) : List Label := counters.map (.levelTotal s)

end LevelSnapshot

/-- The query of a request. -/
structure Query where
  plan : JoinPlan
  columns : List (Option Expression)
  predicates : List Predicate
  deriving Repr

namespace Query

/-- Builds the query of a request whose plan is known. -/
def ofPlan (plan : JoinPlan) (r : Request) : Except QueryFault Query := do
  let required ← r.conditions.mapM (·.predicate? r.window)
  return ⟨plan, r.columns.map (·.expression? r.window),
    r.columns.flatMap (·.predicates r.window) ++ required.filterMap id⟩

/-- Builds the query of a request. -/
def ofRequest (r : Request) : Except QueryFault Query := do
  ofPlan (← (JoinPlan.ofRequest r).mapError .day) r

/-- The label of each column, for those that the query works out. -/
def labels (q : Query) : List (Option Label) :=
  q.columns.mapIdx fun i e => e.map fun _ => .column i

/-- The labels of all selected values besides the actor. -/
def selected (q : Query) : List Label :=
  q.labels.filterMap id ++ q.plan.levels.flatMap LevelSnapshot.labels

/-- The names of the result columns. -/
def columnNames (q : Query) : List String :=
  ["actor_id"] ++ (if q.columns.isEmpty then [] else ["actor_name"]) ++ q.selected.map Label.text

/-- The line that tells how much is asked for. -/
def summary (q : Query) (wikiId : String) : String :=
  s!"[GENERATOR] wiki={wikiId} columns={(q.labels.filterMap id).length} " ++
  s!"predicates={q.predicates.length} level_snapshots={q.plan.levels.length}"

end Query

/-- One join of a query: the name it is joined under, whether actors without a match are kept, and the
table; a range is no table of its own. -/
structure Join where
  joinName : String
  outer : Bool
  table : Option String
  deriving DecidableEq, Repr

/-- The joins of a plan, in order. -/
def JoinPlan.joins (p : JoinPlan) (n : Naming) : List Join :=
  p.snapshots.map (fun k =>
    ⟨k.joinName, k.isOuter, (n.snapshotName k.dimension k.scope.tableKind).toOption⟩) ++
  p.ranges.map fun k => ⟨k.joinName, k.isOuter, none⟩

/-- The line that tells the number of joins. -/
def JoinPlan.joinSummary (p : JoinPlan) (wikiId : String) : String :=
  s!"[PLANNER] {p.joinCount} joins for wiki={wikiId}"

end ActivityReport
