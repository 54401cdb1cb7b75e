import ActivityReport.Plan.Key
import ActivityReport.Request.Basic

/-!
# Join plans

What one request reads from the store. Every column and every condition needs some snapshots and
ranges; the plan lists each need once, in the order in which it is first met. A window without a first
day has nothing before it, so nothing is read there.
-/

namespace ActivityReport

/-- One thing to be read. -/
inductive Need where
  | snapshot (key : SnapshotKey)
  | range (key : RangeKey)
  | level (snapshot : LevelSnapshot)
  deriving DecidableEq, Repr

namespace Need

/-- The snapshot that a need reads. -/
def snapshotKey? : Need → Option SnapshotKey
  | snapshot key => some key
  | level s => some s.key
  | range _ => none

/-- The range that a need reads. -/
def rangeKey? : Need → Option RangeKey
  | range key => some key
  | _ => none

/-- The snapshot of a level that a need reads. -/
def levelSnapshot? : Need → Option LevelSnapshot
  | level s => some s
  | _ => none

end Need

/-- The items of a list, each at its first place only. -/
def firstSeen {α : Type} [DecidableEq α] : List α → List α
  | [] => []
  | a :: rest => a :: (firstSeen rest).filter (· ≠ a)

/-- Nothing is lost and nothing is added. -/
theorem mem_firstSeen {α : Type} [DecidableEq α] {a : α} {list : List α} :
    a ∈ firstSeen list ↔ a ∈ list := by
  induction list with
  | nil => simp [firstSeen]
  | cons b rest ih =>
    by_cases h : a = b
    · simp [firstSeen, h]
    · simp [firstSeen, h, ih]

/-- No item is listed twice. -/
theorem nodup_firstSeen {α : Type} [DecidableEq α] (list : List α) : (firstSeen list).Nodup := by
  induction list with
  | nil => exact List.nodup_nil
  | cons b rest ih =>
    rw [firstSeen, List.nodup_cons]
    exact ⟨by simp, ih.filter _⟩

namespace Window

/-- The snapshot before the first day. -/
def needBefore (w : Window) (d : Dimension) (scope : Scope) : List Need :=
  match w.start with
  | some first => [.snapshot ⟨d, .before, first, scope⟩]
  | none => []

/-- The snapshot at the last day. -/
def needFinish (w : Window) (d : Dimension) (scope : Scope) : Need :=
  .snapshot ⟨d, .finish, w.finish, scope⟩

/-- The snapshots of a value over a span of the window. -/
def needSpan (w : Window) (d : Dimension) (span : Span) (scope : Scope) : List Need :=
  match span with
  | .inPeriod => w.needBefore d scope ++ [w.needFinish d scope]
  | .sinceRegistration => [w.needFinish d scope]

/-- The level before the first day. -/
def needLevelBefore (w : Window) : List Need := (LevelSnapshot.atStart? w).toList.map .level

/-- The level at the last day. -/
def needLevelFinish (w : Window) : Need := .level (LevelSnapshot.atFinish w)

end Window

/-- What a column needs. -/
def Column.needs (w : Window) (c : Column) : List Need :=
  match c.type with
  | .rowNumber | .userName | .userGroups | .registrationDate | .daysSinceRegistration => []
  | .count _ span ratio _ =>
    (c.scopes.flatMap fun s =>
      w.needSpan .actor span s ++ (if ratio = .wikiTotal then w.needSpan .wiki span s else [])) ++
    (if ratio = .ownTotalEdits then w.needSpan .actor span .whole else [])
  | .logDate _ => c.logFilters.map fun f => .range ⟨.logFilter f, w.finish⟩
  | .activityDate a _ | .activityDays a => [.range ⟨.activity a, w.finish⟩]
  | .averagePerDay _ span => w.needSpan .actor span .whole
  | .level .start => w.needLevelBefore
  | .level .finishWithChange => w.needLevelBefore ++ [w.needLevelFinish]
  | .level .finish | .level .sortOrder => [w.needLevelFinish]
  | .milestone _ => w.needSpan .actor .inPeriod .whole

/-- The snapshots of an actor that bound a period. -/
def needBounds (days : Option (Date × Date)) (scope : Scope) : List Need :=
  match days with
  | some (first, last) =>
    [.snapshot ⟨.actor, .before, first, scope⟩, .snapshot ⟨.actor, .finish, last, scope⟩]
  | none => []

/-- The snapshot of an actor at a day. -/
def needDay (day : Option Date) (scope : Scope) : List Need :=
  match day with
  | some d => [.snapshot ⟨.actor, .finish, d, scope⟩]
  | none => []

/-- What a threshold needs. -/
def Threshold.needs (w : Window) (t : Threshold) : Except DayFault (List Need) :=
  match t.period with
  | some period => do
    let days ← w.bounds period t.epoch
    return t.scopes.toList.flatMap (needBounds days)
  | none => do
    let day ← w.resolve t.epoch
    return t.scopes.toList.flatMap (needDay day)

/-- What a condition needs. -/
def Condition.needs (w : Window) : Condition → Except DayFault (List Need)
  | threshold t => t.needs w
  | milestone _ [] => .ok []
  | milestone _ (_ :: _) => .ok (w.needSpan .actor .inPeriod .whole)
  | level changed _ => .ok (w.needLevelFinish :: if changed then w.needLevelBefore else [])
  | _ => .ok []

/-- What a request needs, in the order in which it is met. -/
def Request.needs (r : Request) : Except DayFault (List Need) := do
  let required ← r.conditions.mapM (·.needs r.window)
  return r.columns.flatMap (·.needs r.window) ++ required.flatten

/-- What a request reads, each thing once. -/
structure JoinPlan where
  snapshots : List SnapshotKey
  ranges : List RangeKey
  levels : List LevelSnapshot
  deriving DecidableEq, Repr

namespace JoinPlan

/-- The plan that meets some needs. -/
def ofNeeds (needs : List Need) : JoinPlan where
  snapshots := firstSeen (needs.filterMap Need.snapshotKey?)
  ranges := firstSeen (needs.filterMap Need.rangeKey?)
  levels := firstSeen (needs.filterMap Need.levelSnapshot?)

/-- The plan of a request. -/
def ofRequest (r : Request) : Except DayFault JoinPlan := ofNeeds <$> r.needs

/-- The number of joins. -/
def joinCount (p : JoinPlan) : Nat := p.snapshots.length + p.ranges.length

/-- Whether a snapshot of a subject on a side of some day is read. -/
def reads (p : JoinPlan) (d : Dimension) (b : Boundary) : Bool :=
  p.snapshots.any fun k => k.dimension == d && k.boundary == b

/-- Whether the totals of a snapshot are read for a level. -/
def hasLevel (p : JoinPlan) (s : Option LevelSnapshot) : Bool := s.any p.levels.contains

/-- The line that tells how much is read. -/
def summary (p : JoinPlan) (wikiId : String) : String :=
  s!"[ANALYZER] wiki={wikiId} joins={p.snapshots.length} ranges={p.ranges.length} " ++
  s!"levels={p.levels.length}"

end JoinPlan

end ActivityReport
