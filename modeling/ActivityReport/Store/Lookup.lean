import ActivityReport.Plan.Key
import ActivityReport.Store.Basic

/-!
# Looking into the store

The rows that answer a snapshot or range key. A snapshot is the row of the latest day on its side of the
day asked for; a range spans the days on which the activity's counter is positive.
-/

namespace ActivityReport

/-- The first and the last of some days. -/
def dayRange? : List Date → Option (Date × Date)
  | [] => none
  | d :: rest =>
    some (rest.foldl (fun a b => if b < a then b else a) d, rest.foldl (fun a b => if a < b then b else a) d)

/-- The last of some days. -/
def latestDay? (days : List Date) : Option Date := (dayRange? days).map Prod.snd

namespace Store

/-- The subject of the rows that a dimension asks for on behalf of an actor. -/
def subjectFor (d : Dimension) (actorId : Int) : Option Int :=
  match d with
  | .actor => some actorId
  | .wiki => none

/-- The rows of all actors in a scope. -/
def rowsOfActors (s : Store) (scope : Scope) : List CounterRow :=
  s.counters.filter fun r => r.subject.isSome && r.scope == scope

/-- The latest day of some rows on a key's side of its day. -/
def asOfDay? (key : SnapshotKey) (rows : List CounterRow) : Option Date :=
  latestDay? ((rows.map (·.date)).filter (key.boundary.admits key.date))

/-- The rows of the latest day on a key's side of its day. Where the copy that the day is looked up in
hides the table of actors, the day is the latest one of any actor. -/
def snapshotRows (s : Store) (actorTable : String) (key : SnapshotKey) (actorId : Int) :
    List CounterRow :=
  let rows := s.rowsOf (subjectFor key.dimension actorId) key.scope
  match asOfDay? key (if key.hidesActors actorTable then s.rowsOfActors key.scope else rows) with
  | some day => rows.filter (·.date == day)
  | none => []

/-- The days up to a day on which an actor was active. -/
def activeDays (s : Store) (key : RangeKey) (actorId : Int) : List Date :=
  ((s.rowsOf (some actorId) key.source.scope).filter fun r =>
    0 < r.daily key.source.counter && r.date ≤ key.date).map (·.date)

/-- The first and the last day on which an actor was active. -/
def range? (s : Store) (key : RangeKey) (actorId : Int) : Option (Date × Date) :=
  dayRange? (s.activeDays key actorId)

end Store

end ActivityReport
