import ActivityReport.Calendar.Text
import ActivityReport.Calendar.Window
import ActivityReport.Catalog.Column
import ActivityReport.Plan.Alias

/-!
# Keys

What a report reads from the store. A `SnapshotKey` asks for the latest row of a subject and scope up to
a day, or strictly before it; a `RangeKey` asks for the first and the last day of an activity up to a
day. Equal keys are read once. A `LevelSnapshot` is a snapshot of an actor whose totals decide a level.
-/

namespace ActivityReport

/-- The side of a day on which a snapshot lies. -/
inductive Boundary where
  /-- The latest row up to the day. -/
  | finish
  /-- The latest row strictly before the day. -/
  | before
  deriving DecidableEq, Repr

namespace Boundary

/-- The name of a side. -/
def name : Boundary → String
  | finish => "End"
  | before => "Before"

/-- The side with a name. -/
def ofName? (name : String) : Option Boundary := [finish, before].find? (·.name == name)

/-- Whether a row of a day lies on the side of another day. -/
def admits (b : Boundary) (target row : Date) : Bool :=
  match b with
  | finish => row ≤ target
  | before => row < target

end Boundary

/-- The latest row of a subject and scope on one side of a day. -/
structure SnapshotKey where
  dimension : Dimension
  boundary : Boundary
  date : Date
  scope : Scope
  deriving DecidableEq, Repr

namespace SnapshotKey

/-- The name under which a snapshot is joined. -/
def joinName (k : SnapshotKey) : String :=
  String.ofList (Alias.bounded ((k.dimension.name ++ k.boundary.name).toList ++
    Alias.joined (Alias.scopePart? k.scope) ++ '_' :: k.date.key.toList))

/-- The name of the copy of the snapshot's table in which its day is looked up. -/
def asOfName (k : SnapshotKey) : String := k.joinName ++ "_asof"

/-- Whether that copy hides the table of actors behind its own name. -/
def hidesActors (k : SnapshotKey) (actorTable : String) : Bool :=
  k.dimension == .actor && isSameName k.asOfName actorTable

/-- Whether an actor without the snapshot is kept: only the end of the actor's whole activity must be
there. -/
def isOuter (k : SnapshotKey) : Bool :=
  !(k.dimension == .actor && k.boundary == .finish && k.scope == .whole)

end SnapshotKey

/-- The events whose first and last days are asked for. -/
inductive RangeSource where
  | activity (a : Activity)
  | logFilter (f : LogFilter)
  deriving DecidableEq, Repr

namespace RangeSource

/-- The name of a source. -/
def name : RangeSource → String
  | activity a => a.name
  | logFilter _ => "logFilter"

/-- The first part of the alias of a source. -/
def stem : RangeSource → String
  | activity .edits => "editDates"
  | activity .logEvents => "logEventDates"
  | logFilter _ => "logDates"

/-- The scope of the rows of a source. -/
def scope : RangeSource → Scope
  | activity _ => .whole
  | logFilter f => .logged f

/-- The counter that is positive on a day of a source. -/
def counter : RangeSource → Counter
  | activity a => a.counter
  | logFilter _ => .logEvents

end RangeSource

/-- The first and the last day of an activity up to a day. -/
structure RangeKey where
  source : RangeSource
  date : Date
  deriving DecidableEq, Repr

namespace RangeKey

/-- The name under which a range is joined. -/
def joinName (k : RangeKey) : String :=
  String.ofList (Alias.bounded (k.source.stem.toList ++ Alias.joined (Alias.scopePart? k.source.scope) ++
    '_' :: k.date.key.toList))

/-- Whether an actor without the activity is kept. -/
def isOuter (k : RangeKey) : Bool :=
  match k.source with
  | .activity _ => false
  | .logFilter _ => true

end RangeKey

/-- A snapshot of an actor whose totals decide a level. -/
structure LevelSnapshot where
  boundary : Boundary
  date : Date
  deriving DecidableEq, Repr

namespace LevelSnapshot

/-- The key of the snapshot. -/
def key (s : LevelSnapshot) : SnapshotKey := ⟨.actor, s.boundary, s.date, .whole⟩

/-- The first part of the labels of its totals. -/
def labelStem (s : LevelSnapshot) : String := s!"level{s.boundary.name}_{s.date.key}"

/-- The snapshot strictly before the first day of a window. -/
def atStart? (w : Window) : Option LevelSnapshot := w.start.map (⟨.before, ·⟩)

/-- The snapshot at the last day of a window. -/
def atFinish (w : Window) : LevelSnapshot := ⟨.finish, w.finish⟩

end LevelSnapshot

end ActivityReport
