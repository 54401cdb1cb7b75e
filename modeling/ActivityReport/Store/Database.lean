import ActivityReport.Failure.Basic
import ActivityReport.Query.Evaluation
import ActivityReport.Query.Limits
import ActivityReport.Query.Place
import ActivityReport.Store.Groups

/-!
# The database

A database holds the tables of one wiki, or none. It refuses a query on other tables (the case of their
names does not matter), a query that is too large, and a query in which two tables go by names that differ
in case only. It refuses a name in which a place for a value or a null character stands. Then it refuses
whole numbers that do not fit a word.
-/

namespace ActivityReport

/-- The tables of a wiki; without a store there are none. -/
structure Database where
  wikiId : String
  store : Option Store

/-- The greatest number of tables in one query. -/
def maxTables : Nat := 64

/-- The whole numbers that name a scope. -/
def Scope.parameters : Scope → List Int
  | .inNamespace n => [n]
  | .tagged f => f.tag :: f.inNamespace.toList
  | .whole | .logged _ => []

namespace JoinPlan

/-- The names under which tables are joined. -/
def joinNames (p : JoinPlan) : List String :=
  p.snapshots.map SnapshotKey.joinName ++ p.ranges.map RangeKey.joinName

/-- Whether the tables of a plan can be joined with the table of actors. -/
def isJoinable (p : JoinPlan) (actorTable : String) : Bool :=
  p.joinCount < maxTables && decide ((actorTable :: p.joinNames).map asciiLower).Nodup

/-- The whole numbers of a plan. -/
def parameters (p : JoinPlan) : List Int := p.snapshots.flatMap (·.scope.parameters)

end JoinPlan

/-- The whole numbers of a query. -/
def Query.parameters (q : Query) : List Int :=
  q.plan.parameters ++ (q.columns.filterMap id).flatMap Expression.parameters ++
    q.predicates.flatMap Predicate.parameters

/-- The whole numbers in a store. -/
def Store.integers (s : Store) : List Int :=
  s.actors.map Actor.id ++ s.groups.map Prod.fst ++ s.templates.map Prod.fst ++
    s.counters.flatMap fun r => r.subject.toList ++ r.scope.parameters ++
      Counter.all.flatMap fun c => [r.daily c, r.toDate c]

namespace Database

/-- The store with the tables of a wiki. -/
def tablesOf (db : Database) (n : Naming) : Except Failure Store :=
  if Place.isIn n.actorTable.toList then .error (.database .placeholder)
  else if n.hasNull then .error (.database .nullCharacter)
  else
    match db.store with
    | some s => if isSameName n.wiki db.wikiId then .ok s else .error (.database .unusable)
    | none => .error (.database .unusable)

/-- Checks that whole numbers fit the database. -/
def checkIntegers (ns : List Int) : Except Failure Unit :=
  if ns.all Number.fitsWord then .ok () else .error .wideInteger

/-- A database with some contents, which must fit it. -/
def ofStore (wikiId : String) (s : Store) : Except Failure Database := do
  checkIntegers s.integers
  return ⟨wikiId, some s⟩

/-- A database with more contents. -/
def insert (db : Database) (s : Store) : Except Failure Database :=
  checkIntegers s.integers >>= fun () => ofStore db.wikiId ((db.store.getD Store.empty).append s)

/-- The rows that a query returns. -/
def execute (db : Database) (n : Naming) (q : Query) : Except Failure (List RawRow) := do
  let s ← db.tablesOf n
  if !(q.plan.isJoinable n.actorTable && q.isWithinLimits) then .error (.database .unusable)
  checkIntegers q.parameters
  return q.rows s n.actorTable

/-- The number of actors whose groups are looked up in one chunk. -/
def groupChunk : Nat := 1000

/-- The line that tells for how many actors groups were found. -/
def groupSummary (m : GroupMap) (ids : List Int) : LogLine :=
  ⟨.debug, s!"[EXECUTOR] groups loaded for {m.length}/{(firstSeen ids).length} actors"⟩

/-- Looks up the groups of some actors. -/
def fetchGroups (db : Database) (n : Naming) (chunk : Nat) (ids : List Int) :
    Traced Failure GroupMap := do
  if ids.isEmpty then
    Traced.logAll [groupSummary [] ids]
    return []
  let s ← Traced.result (db.tablesOf n)
  Traced.result (checkIntegers ids)
  let m := s.fetchGroups chunk ids
  Traced.logAll [groupSummary m ids]
  return m

/-- Looks up the groups of some actors for so many at a time; nobody is looked up for less than none. -/
def fetchGroupsBy (db : Database) (n : Naming) (chunk : Int) (ids : List Int) :
    Traced Failure GroupMap := do
  if chunk = 0 then Traced.fail .emptyChunk
  else if chunk < 0 then
    Traced.logAll [groupSummary [] ids]
    return []
  else db.fetchGroups n chunk.toNat ids

end Database

end ActivityReport
