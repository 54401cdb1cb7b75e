import ActivityReport.Report.Order

/-!
# Numbering

The last step of a report: rows get their groups and their numbers, and the report ends with the last
number asked for. Groups are looked up for a batch of rows at a time, and only as far as the report
reaches; the lists of actors that were looked up are kept with the answer. Bots that are not counted get
no number. Numbering as such cannot fail; `keyFault?` tells where it comes to an actor or a name that cannot
be looked up.
-/

namespace ActivityReport

/-- A row of a finished report. -/
structure ActorRow where
  id : Cell
  name : Cell
  groups : List Cell
  values : List Cell

/-- A row with its groups. -/
structure GroupedRow where
  row : ReportRow
  groups : List Cell

/-- A look-up of groups: for some actors at once, the groups of each. -/
abbrev GroupLookup := List Cell → Cell → List Cell

/-- How rows are numbered. -/
structure NumberingRules where
  types : List ColumnType
  /-- The last number; there is no end without one. -/
  limit : Option Nat
  /-- Whether bots are passed over in counting. -/
  skipsBots : Bool
  /-- The group of bots. -/
  botGroup : Cell
  /-- The names of bots that are not in their group. -/
  bots : List Cell

namespace GroupedRow

/-- The row with its groups looked up. -/
def ofLookup (groupsOf : Cell → List Cell) (row : ReportRow) : GroupedRow := ⟨row, groupsOf row.id⟩

/-- What a column of the finished row shows. -/
def finishCell (g : GroupedRow) (number : Cell) (t : ColumnType) (v : ColumnValue) : Cell :=
  match t with
  | .rowNumber => number
  | .userGroups => .list g.groups
  | _ => v.shown

/-- The finished row with a number. -/
def finish (g : GroupedRow) (types : List ColumnType) (number : Cell) : ActorRow :=
  ⟨g.row.id, g.row.name, g.groups, List.zipWith (g.finishCell number) types g.row.values⟩

end GroupedRow

namespace NumberingRules

/-- Whether a row with some groups and a name is passed over in counting: one of a bot is, by its groups or by
its name. -/
def passes (r : NumberingRules) (groups : List Cell) (name : Cell) : Bool :=
  r.skipsBots && (groups.any r.botGroup.isSame || r.bots.any name.isSame)

/-- Whether the last number has been given. -/
def isDone (r : NumberingRules) (count : Nat) : Bool := r.limit.any (· ≤ count)

/-- Numbers rows from a count on: first those whose groups are known, then the others, `batch + 1` at a
time. -/
def number (r : NumberingRules) (lookup : GroupLookup) (batch : Nat) (count : Nat) :
    List GroupedRow → List ReportRow → List ActorRow × List (List Cell)
  | [], [] => ([], [])
  | g :: known, rest =>
    if r.isDone count then ([], [])
    else if r.passes g.groups g.row.name then
      let (rows, asked) := number r lookup batch count known rest
      (g.finish r.types (.text "") :: rows, asked)
    else
      let (rows, asked) := number r lookup batch (count + 1) known rest
      (g.finish r.types (.int (count + 1 : Nat)) :: rows, asked)
  | [], row :: rest =>
    if r.isDone count then ([], [])
    else
      let ids := (row :: rest.take batch).map ReportRow.id
      let (rows, asked) := number r lookup batch count
        ((row :: rest.take batch).map (GroupedRow.ofLookup (lookup ids))) (rest.drop batch)
      (rows, ids :: asked)
termination_by known rest => known.length + 2 * rest.length
decreasing_by
  · simp only [List.length_cons]; omega
  · simp only [List.length_cons]; omega
  · simp only [List.length_map, List.length_cons, List.length_take, List.length_drop, List.length_nil]
    omega

/-- Why a numbered row cannot be looked up among the names of bots, if it has to be. -/
def nameFault? (r : NumberingRules) (row : ActorRow) : Option Cell.KeyFault :=
  if r.skipsBots && !row.groups.any r.botGroup.isSame then row.name.keyFault? else none

/-- The first fault in some look-ups and the rows that are numbered after them, with the number of look-ups up
to it, of which some have been made before. -/
def keyFault? (r : NumberingRules) (made : Nat) :
    List (List Cell) → List ActorRow → Option (Nat × Cell.KeyFault)
  | [], rows => (rows.findSome? r.nameFault?).map (made, ·)
  | ids :: asked, rows =>
    match (ids.findSome? Cell.keyFault?).or ((rows.take ids.length).findSome? r.nameFault?) with
    | some f => some (made + 1, f)
    | none => keyFault? r (made + 1) asked (rows.drop ids.length)

end NumberingRules

namespace Request

/-- How the rows of a request are numbered; an item count of 0 sets no end. -/
def numbering (r : Request) (botGroup : String) (bots : List Cell) : NumberingRules where
  types := r.columns.map Column.type
  limit := r.itemCount.filter (0 < ·)
  skipsBots := r.skipBots
  botGroup := .text botGroup
  bots := bots

end Request

end ActivityReport
