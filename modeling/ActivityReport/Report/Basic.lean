import ActivityReport.Failure.Basic
import ActivityReport.Report.Numbering

/-!
# Reports

From the rows of a query to the rows of a report: levels, conditions on levels, order, groups and
numbers, with the lines that the steps leave in the log. Groups are needed before the rows are ordered
only when a key of the order is a column of groups.
-/

namespace ActivityReport

/-- A column's values, with groups filled in where they are shown. -/
def ColumnValue.withGroups (groups : List Cell) (t : ColumnType) (v : ColumnValue) : ColumnValue :=
  match t with
  | .userGroups => ⟨.list groups, .list groups⟩
  | _ => v

/-- Fills in the groups of a row before the rows are ordered. -/
def GroupedRow.withGroupCells (g : GroupedRow) (types : List ColumnType) : ReportRow :=
  { g.row with values := List.zipWith (ColumnValue.withGroups g.groups) types g.row.values }

/-- Where groups come from: a look-up, how many rows are looked up at a time, and what is done for each
look-up. -/
structure GroupSource where
  lookup : GroupLookup
  /-- The number of rows of a look-up. A size that is not positive is the number of rows, counted from the
  end, that a look-up leaves out; then the last rows are never looked up. -/
  size : Int
  /-- The lines that a look-up leaves in the log. -/
  lines : List Cell → List LogLine

namespace GroupSource

/-- The number of rows of a look-up among `n` rows. -/
def stride (g : GroupSource) (n : Nat) : Nat := if 0 < g.size then g.size.toNat else (n + g.size).toNat

/-- The number of rows, of `n`, that can be looked up. -/
def reach (g : GroupSource) (n : Nat) : Nat :=
  if 0 < g.size then n else g.stride n * ((n - 1) / g.stride n)

/-- Whether some of `n` rows that are left over after their groups could be looked up belong to the first
`reached` ones. -/
def fallsShort (g : GroupSource) (n reached : Nat) : Bool := 0 < n && g.reach n < reached

/-- Notes some look-ups and what they leave in the log. -/
def note (g : GroupSource) (asked : List (List Cell)) : Traced Failure Unit := do
  Traced.noteLookups asked
  Traced.logAll (asked.flatMap g.lines)

end GroupSource

/-- Fails when something cannot be looked up. -/
def refuseKey (fault : Option Cell.KeyFault) : Traced Failure Unit :=
  match fault with
  | some f => Traced.fail (.key f)
  | none => return ()

/-- Numbers rows, first those whose groups are known and then the others, and notes what was looked up. -/
def NumberingRules.apply (rules : NumberingRules) (groups : GroupSource) (known : List GroupedRow)
    (rest : List ReportRow) : Traced Failure (List ActorRow) := do
  refuseKey (rules.bots.findSome? Cell.keyFault?)
  let (rows, asked) := rules.number groups.lookup (groups.stride rest.length - 1) 0 known rest
  let isShort := groups.fallsShort rest.length rows.length
  let reach := groups.reach rest.length
  let asked := if isShort then asked.take (reach / groups.stride rest.length) else asked
  match rules.keyFault? 0 asked (if isShort then rows.take reach else rows) with
  | some (made, fault) => do
    groups.note (asked.take made)
    Traced.fail (.key fault)
  | none => do
    groups.note asked
    if isShort && rules.skipsBots then Traced.fail (.ungrouped true)
    return rows

namespace Layout

/-- The rows with their levels. -/
def withLevels (l : Layout) (raw : List SourceRow) : Except LevelFault (List LevelledRow) :=
  raw.mapM fun row => row.withLevels l.ladder l.levels

/-- The rows with their levels, those dropped that fail a condition on levels. -/
def levelled (l : Layout) (r : Request) (raw : List SourceRow) : Traced Failure (List LevelledRow) := do
  if !l.levels.isEmpty && !l.hasRungs then
    Traced.log .debug s!"[LEVELS] No ladder; {raw.length} rows get no level"
  let rows ← Traced.result ((l.withLevels raw).mapError .level)
  if r.requiresLevels then
    let kept := rows.filter r.keepsLevels
    Traced.log .debug s!"[POSTPROCESS] level requirements kept {kept.length}/{rows.length} rows"
    return kept
  else return rows

/-- The actors of the rows that meet the conditions on levels. -/
def actorIds (l : Layout) (r : Request) (raw : List SourceRow) : Traced Failure (List Cell) := do
  return (← l.levelled r raw).map (·.raw.id)

/-- The rows of the report in order: those whose groups are known, and the others. -/
def ordered (l : Layout) (r : Request) (groups : GroupSource) (rows : List ReportRow) :
    Traced Failure (List GroupedRow × List ReportRow) := do
  let warnings := r.unknownKeys.map fun id =>
    (⟨.warning, s!"[POSTPROCESS] orderBy references unknown column '{id}', ignored"⟩ : LogLine)
  if r.sortsByGroups && !rows.isEmpty then
    let ids := rows.map ReportRow.id
    groups.note [ids]
    refuseKey (ids.findSome? Cell.keyFault?)
    Traced.logAll warnings
    let grouped := GroupedRow.ofLookup (groups.lookup ids)
    let filled := rows.map fun row => (grouped row).withGroupCells (l.columns.map (·.column.type))
    let sorted ← Traced.result ((sortRows r.sortKeys filled).mapError .order)
    return (sorted.map grouped, [])
  else
    Traced.logAll warnings
    return ([], ← Traced.result ((sortRows r.sortKeys rows).mapError .order))


/-- The report on the rows of a query. -/
def report (l : Layout) (r : Request) (rules : NumberingRules) (groups : GroupSource)
    (raw : List SourceRow) : Traced Failure (List ActorRow) := do
  let rows ← l.levelled r raw
  if l.lacksLabels r then Traced.fail .unlabelled
  let (known, rest) ← l.ordered r groups (rows.map (·.report l r.window))
  let finished ← rules.apply groups known rest
  Traced.log .debug s!"[POSTPROCESS] {finished.length} results for wiki={r.wikiId}"
  if groups.fallsShort rest.length finished.length then Traced.fail (.ungrouped false)
  return finished

end Layout

end ActivityReport
