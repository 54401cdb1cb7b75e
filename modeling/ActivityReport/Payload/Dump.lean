import ActivityReport.Payload.Request

/-!
# Writing payloads

Requests, ladders, pyramids and known wikis in the wire form that the readers read: fields under their
wire spelling, defaults filled in, absent values left out.
-/

namespace ActivityReport.Payload

/-- A field that is there. -/
def entry (f : FieldName) (j : Json) : Entries := [(f.wire, j)]

/-- A field that may be absent. -/
def presentEntry {α : Type} (f : FieldName) (write : α → Json) : Option α → Entries
  | some a => entry f (write a)
  | none => []

/-- A field that may be null. -/
def entryOrNull {α : Type} (f : FieldName) (write : α → Json) (a : Option α) : Entries :=
  entry f ((a.map write).getD .null)

/-- A list of values. -/
def writeList {α : Type} (write : α → Json) (list : List α) : Json := .list (list.map write)

/-- A list of texts. -/
def writeTexts : List String → Json := writeList .text

/-- A list of whole numbers. -/
def writeIntegers : List Int → Json := writeList .int

/-- A natural number. -/
def writeNatural (n : Nat) : Json := .int n

/-- A day. -/
def writeDay (d : Date) : Json := .text d.toIso

/-- A filter by change tag. -/
def writeChangeTagFilter (f : ChangeTagFilter) : Json :=
  .object (entry Name.changeTagId (.int f.tag) ++ presentEntry Name.inNamespace .int f.inNamespace)

/-- A filter of log events. -/
def writeLogFilter (f : LogFilter) : Json :=
  .object (presentEntry Name.logType .text f.type? ++ presentEntry Name.logAction .text f.action?)

/-- Scopes, in the field that lists them. -/
def writeScopes : Scopes → Entries
  | .whole => []
  | .namespaces ids => entry Name.inNamespace (writeIntegers ids)
  | .changeTags filters => entry Name.changeTag (writeList writeChangeTagFilter filters)
  | .logFilters filters => entry Name.logFilter (writeList writeLogFilter filters)

/-- An epoch. -/
def writeEpoch : Epoch → Json
  | .offset n => .int n
  | .startOfPeriod => .text startOfPeriodName

/-- A threshold. -/
def writeThreshold (t : Threshold) : Json :=
  .object (writeScopes t.scopes ++ entry Name.count (.int t.count) ++
    presentEntry Name.period writeNatural t.period ++ presentEntry Name.epoch writeEpoch t.epoch)

/-- What a condition compares with. -/
def writeCondition : Condition → Json
  | .registrationStatus statuses => writeList (fun s => .text s.name) statuses
  | .registrationAge _ days => .int days
  | .inGroups names | .notInGroups names | .hasTemplates names | .hasNoTemplates names => writeTexts names
  | .threshold t => writeThreshold t
  | .milestone _ milestones => writeIntegers milestones
  | .level _ ids => writeTexts ids

/-- A requirement. -/
def writeRequirement (r : Requirement) : Json :=
  .object (r.flatMap fun c => entry c.criterion.field (writeCondition c))

/-- The parameter of a column, in its field. -/
def writeParameter : Parameter → Entries
  | .scopes s => writeScopes s
  | .milestones list => presentEntry Name.milestones writeIntegers list

/-- A column. -/
def writeColumn (c : Column) : Json :=
  .object (entry Name.type (.text c.type.tag) ++ presentEntry Name.columnId .text c.id ++
    writeParameter c.parameter ++
    (if c.moreThanZero then entry Name.filterByRule (.text moreThanZeroName) else []))

/-- One key of the order of rows. -/
def writeOrderBy (o : OrderBy) : Json :=
  .object (entry Name.columnId (.text o.columnId) ++
    entry Name.direction (.text (if o.descending then "desc" else "asc")))

/-- One rung of a ladder. -/
def writeRung (r : Rung) : Json :=
  .object (entry Name.id (.text r.id) ++ entry Name.label (.text r.label) ++
    entry Name.requiredContributions (writeNatural r.contributions) ++
    entry Name.requiredActiveDays (writeNatural r.activeDays))

/-- A ladder. -/
def writeLadder (l : Ladder) : Json := writeList writeRung l

/-- A request. -/
def writeRequest (r : Request) : Json :=
  .object (entry Name.wikiId (.text r.wikiId) ++ entry Name.columns (writeList writeColumn r.columns) ++
    presentEntry Name.requirements writeRequirement r.requirements ++
    entry Name.orderBy (writeList writeOrderBy r.orderBy) ++
    presentEntry Name.itemCount writeNatural r.itemCount ++
    presentEntry Name.startDate writeDay r.window.start ++ entry Name.endDate (writeDay r.window.finish) ++
    entry Name.skipBots (.bool r.skipBots) ++
    presentEntry Name.serviceAwardLevels writeLadder r.ladder)

/-- A group of a pyramid. -/
def writePyramidGroup (g : PyramidGroup) : Json :=
  .object (entry Name.name (.text g.name) ++ entry Name.requirements (writeRequirement g.requirements))

/-- A pyramid. -/
def writePyramid (p : Pyramid) : Json :=
  .object (entry Name.id (.text p.id) ++ entry Name.name (.text p.name) ++
    entry Name.groups (writeList writePyramidGroup p.groups))

/-- A known wiki; `optionalEntry` says how an absent page name is written. -/
def writeKnownWikiWith (optionalEntry : FieldName → (String → Json) → Option String → Entries)
    (w : KnownWiki) : Json :=
  .object (entry Name.id (.text w.id) ++ entry Name.domain (.text w.domain) ++
    entry Name.replicaDatabaseName (.text w.replicaDatabaseName) ++
    entry Name.languageCode (.text w.languageCode) ++ entry Name.timeZone (.text w.timeZone) ++
    entry Name.flaglessBots (writeTexts w.flaglessBots) ++
    entry Name.hasServiceAwards (.bool w.hasServiceAwards) ++
    optionalEntry Name.serviceAwardPageName .text w.serviceAwardPageName)

/-- A known wiki, without absent values. -/
def writeKnownWiki : KnownWiki → Json := writeKnownWikiWith presentEntry

/-- A known wiki, with null for absent values. -/
def writeFullKnownWiki : KnownWiki → Json := writeKnownWikiWith entryOrNull

end ActivityReport.Payload
