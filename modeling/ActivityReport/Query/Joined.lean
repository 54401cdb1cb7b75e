import ActivityReport.Plan.Basic
import ActivityReport.Store.Lookup

/-!
# Joined rows

The actors of a store, each joined with the rows that a plan reads. A join pairs what is there so far
with every matching row; an outer join keeps what has no match, with nothing in its place. In a store
without double keys every actor appears at most once. The name of the table of actors matters where the
name of another table's copy hides it.
-/

namespace ActivityReport

/-- An actor with the rows and ranges joined so far. -/
structure JoinedRow where
  actor : Actor
  snapshots : List (SnapshotKey × Option CounterRow)
  ranges : List (RangeKey × Option (Date × Date))

namespace JoinedRow

/-- An actor on its own. -/
def ofActor (a : Actor) : JoinedRow := ⟨a, [], []⟩

/-- What is joined under a key. -/
def find? {α β : Type} [DecidableEq α] (key : α) : List (α × Option β) → Option β
  | [] => none
  | (k, v) :: rest => if k = key then v else find? key rest

/-- The row of a snapshot. -/
def snapshot? (r : JoinedRow) (key : SnapshotKey) : Option CounterRow := find? key r.snapshots

/-- The days of a range. -/
def range? (r : JoinedRow) (key : RangeKey) : Option (Date × Date) := find? key r.ranges

end JoinedRow

/-- The partners of a join: every match, or nothing in its place when the join is outer. -/
def partners {α : Type} (outer : Bool) (found : List α) : List (Option α) :=
  match found with
  | [] => if outer then [none] else []
  | first :: rest => (first :: rest).map some

namespace Store

/-- Joins a row with a snapshot. -/
def joinSnapshot (s : Store) (actorTable : String) (r : JoinedRow) (key : SnapshotKey) :
    List JoinedRow :=
  (partners key.isOuter (s.snapshotRows actorTable key r.actor.id)).map fun row =>
    { r with snapshots := r.snapshots ++ [(key, row)] }

/-- Joins a row with a range. -/
def joinRange (s : Store) (r : JoinedRow) (key : RangeKey) : List JoinedRow :=
  (partners key.isOuter (s.range? key r.actor.id).toList).map fun days =>
    { r with ranges := r.ranges ++ [(key, days)] }

/-- Joins rows with one key after the other. -/
def joinAll {κ : Type} (join : JoinedRow → κ → List JoinedRow) (keys : List κ) (rows : List JoinedRow) :
    List JoinedRow :=
  keys.foldl (fun rows key => rows.flatMap (join · key)) rows

/-- An actor joined with all that a plan reads. -/
def joinActor (s : Store) (actorTable : String) (p : JoinPlan) (a : Actor) : List JoinedRow :=
  joinAll s.joinRange p.ranges (joinAll (s.joinSnapshot actorTable) p.snapshots [JoinedRow.ofActor a])

/-- All actors joined with all that a plan reads. -/
def joined (s : Store) (actorTable : String) (p : JoinPlan) : List JoinedRow :=
  s.actors.flatMap (s.joinActor actorTable p)

end Store

end ActivityReport
