import ActivityReport.Config.Files
import ActivityReport.Report.Basic
import ActivityReport.Store.Database

/-!
# Compiling a request

The whole way from a request to its report. The stages are timed one by one: the plan is made
(`analyze`), its joins are counted (`plan`), the query is built (`generate`) and run (`execute`), and its
rows are worked up (`postprocess`). A request without columns ends with the actors that the query finds.
A refusal by the database becomes an incident; other failures pass through as they are.
-/

namespace ActivityReport

/-- What reports are made from: the settings, the configuration files and the database. -/
structure Service where
  settings : Settings
  resources : Resources
  database : Database

/-- The answer to a request: rows, or actors when no columns are asked for. -/
inductive Answer where
  | rows (rows : List ActorRow)
  | ids (ids : List Int)

/-- The number of rows of an answer. -/
def Answer.size : Answer → Nat
  | rows list => list.length
  | ids list => list.length

/-- The line that begins the work on a request. -/
def Request.summary (r : Request) : String :=
  let first := match r.window.start with
    | some d => d.toIso
    | none => "None"
  s!"[STATS] Compiling wiki={r.wikiId} columns={r.columns.length} window={first}..{r.window.finish.toIso}"

namespace Service

/-- Runs one stage of the work on a request. -/
def stage {α : Type} (r : Request) (name : String) (body : Traced Failure α) : Traced Failure α :=
  Traced.stage Failure.names r.wikiId name body

/-- Makes the query of a request, in three stages. -/
def prepare (r : Request) : Traced Failure Query := do
  let plan ← stage r "analyze" do
    let plan ← Traced.result ((JoinPlan.ofRequest r).mapError fun f => .query (.day f))
    Traced.log .debug (plan.summary r.wikiId)
    return plan
  stage r "plan" (Traced.log .debug (plan.joinSummary r.wikiId))
  stage r "generate" do
    let q ← Traced.result ((Query.ofPlan plan r).mapError .query)
    Traced.log .debug (q.summary r.wikiId)
    return q

/-- Where the groups of the rows of a store come from. -/
def groupSource (s : Store) : GroupSource where
  lookup ids :=
    let m := s.fetchGroups Database.groupChunk (ids.filterMap Cell.int?)
    fun id => (id.int?.elim [] m.groupsOf).map .text
  size := Database.groupChunk
  lines ids :=
    let ids := ids.filterMap Cell.int?
    [Database.groupSummary (s.fetchGroups Database.groupChunk ids) ids]

/-- Runs a query: the rows to work up, or the answer when no columns are asked for. -/
def execute (x : Service) (r : Request) (q : Query) (layout : Layout) :
    Traced Failure (List SourceRow ⊕ List Int) := do
  Traced.log (if x.settings.logSql then .info else .debug) "[EXECUTOR] SQL:"
  let rows ← Traced.result (x.database.execute (x.settings.naming r.wikiId) q)
  if r.columns.isEmpty && layout.levels.isEmpty then
    Traced.log .info s!"[EXECUTOR] {rows.length} actor ids fetched"
    return .inr (rows.map RawRow.id)
  Traced.log .info s!"[EXECUTOR] {rows.length} rows fetched"
  let sources := rows.map RawRow.source
  if r.columns.isEmpty then return .inr ((← layout.actorIds r sources).filterMap Cell.int?)
  return .inl sources

/-- Runs a query and works up its rows. -/
def answer (x : Service) (r : Request) (q : Query) (ladder : Option Ladder) (bots : List String) :
    Traced Failure Answer := do
  let layout := Layout.ofRequest r q.labels q.plan.levels ladder
  match ← stage r "execute" (x.execute r q layout) with
  | .inr ids => return .ids ids
  | .inl rows =>
    let store := x.database.store.getD Store.empty
    return .rows (← stage r "postprocess" <|
      layout.report r (r.numbering x.settings.botGroupName (bots.map .text)) (groupSource store) rows)

/-- The incident that a refusal by the database becomes. -/
def queryIncident (r : Request) (q : Query) (f : Refusal) : Incident :=
  ⟨.query, .text s!"{f.name} while executing statistics query", .text r.wikiId,
   .object [("joins", .int q.plan.joinCount)], .null⟩

/-- Runs a query and works up its rows; a refusal by the database becomes an incident. -/
def guardedAnswer (x : Service) (r : Request) (q : Query) (ladder : Option Ladder)
    (bots : List String) : Traced Failure Answer := do
  match ← Traced.attempt (x.answer r q ladder bots) with
  | .ok a => return a
  | .error (.database f) =>
    Traced.log .error s!"[STATS] Query failed for wiki={r.wikiId} (joins={q.plan.joinCount}):"
    Traced.fail (.incident (queryIncident r q f))
  | .error e => Traced.fail e

/-- Compiles and answers a request. Without a given list the bots that do not carry the bot group are
read from the configuration. -/
def compile (x : Service) (bots : Option (List String)) (r : Request) : Traced Failure Answer := do
  let ladder ← x.resources.resolveLadder r
  let bots ← match bots with
    | some list => pure list
    | none => x.resources.resolveFlaglessBots r
  Traced.log .info r.summary
  Traced.timed Failure.names r.wikiId (fun a => some (.int a.size)) do
    let q ← prepare r
    x.guardedAnswer r q ladder bots

end Service

end ActivityReport
