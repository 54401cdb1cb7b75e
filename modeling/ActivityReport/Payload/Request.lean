import ActivityReport.Config.KnownWiki
import ActivityReport.Payload.Column
import ActivityReport.Payload.Day
import ActivityReport.Pyramid.Definition
import ActivityReport.Request.Basic

/-!
# Requests of a payload

Readers of whole requests, of ladders, of pyramids and of the list of known wikis. The definitions of
pyramids and of known wikis pay no attention to keys they do not know.
-/

namespace ActivityReport.Payload

open Checked

namespace Name

def wikiId : FieldName := .ofWords ["wiki", "id"]
def columns : FieldName := .ofWords ["columns"]
def requirements : FieldName := .ofWords ["requirements"]
def orderBy : FieldName := .ofWords ["order", "by"]
def itemCount : FieldName := .ofWords ["item", "count"]
def startDate : FieldName := .ofWords ["start", "date"]
def endDate : FieldName := .ofWords ["end", "date"]
def skipBots : FieldName := .ofWords ["skip", "bots", "from", "counting"]
def serviceAwardLevels : FieldName := .ofWords ["service", "award", "levels"]
def direction : FieldName := .ofWords ["direction"]
def id : FieldName := .ofWords ["id"]
def label : FieldName := .ofWords ["label"]
def requiredContributions : FieldName := .ofWords ["required", "contributions"]
def requiredActiveDays : FieldName := .ofWords ["required", "active", "days"]
def name : FieldName := .ofWords ["name"]
def groups : FieldName := .ofWords ["groups"]
def domain : FieldName := .ofWords ["domain"]
def replicaDatabaseName : FieldName := .ofWords ["replica", "database", "name"]
def languageCode : FieldName := .ofWords ["language", "code"]
def timeZone : FieldName := .ofWords ["time", "zone"]
def flaglessBots : FieldName := .ofWords ["flagless", "bots"]
def hasServiceAwards : FieldName := .ofWords ["has", "service", "awards"]
def serviceAwardPageName : FieldName := .ofWords ["service", "award", "page", "name"]

end Name

/-- The direction with a name; upper and lower case do not matter, and the long names count too. The
letters of these names are the lower case of ASCII letters only. -/
def descendingOfName? (name : String) : Option Bool :=
  let word := String.ofList (name.toList.map Char.toLower)
  if word = "asc" ∨ word = "ascending" then some false
  else if word = "desc" ∨ word = "descending" then some true
  else none

/-- Reads one key of the order of rows. -/
def readOrderBy : Reader OrderBy :=
  readStrict "OrderBy" [Name.columnId, Name.direction] fun entries =>
    OrderBy.mk <$> required entries Name.columnId readText <*>
      defaulted entries Name.direction false (readName ["asc", "desc"] descendingOfName?)

/-- Reads one rung of a ladder. -/
def readRung : Reader Rung :=
  readStrict "ServiceAwardLevel"
    [Name.id, Name.label, Name.requiredContributions, Name.requiredActiveDays] fun entries =>
    Rung.mk <$> required entries Name.id readText <*> required entries Name.label readText <*>
      required entries Name.requiredContributions readNatural <*>
      required entries Name.requiredActiveDays readNatural

/-- A window that keeps its order. -/
abbrev OrderedWindow := { w : Window // ∀ first ∈ w.start, first ≤ w.finish }

/-- Reads the last day of a window whose first day is known, unless that one is faulty. -/
def readFinish (entries : Entries) (start : Checked (Option Date)) : Checked Date :=
  required entries Name.endDate fun j =>
    (readDay j).andThen fun last =>
      match start.value?.bind id with
      | some first => if first ≤ last then ok last else problem (.rule .endBeforeStart)
      | none => ok last

/-- The window with a first and a last day. -/
def orderedWindow (start : Option Date) (finish : Date) : Checked OrderedWindow :=
  if h : ∀ first ∈ start, first ≤ finish then ok ⟨⟨start, finish⟩, h⟩
  else problem (.rule .endBeforeStart)

/-- Reads the window of a request. -/
def readWindow (entries : Entries) : Checked OrderedWindow :=
  let start := possible entries Name.startDate readDay
  ((orderedWindow · ·) <$> start <*> readFinish entries start).andThen id

/-- Reads a request. -/
def readRequest : Reader Request :=
  readStrict "StatisticsRequest"
    [Name.wikiId, Name.columns, Name.requirements, Name.orderBy, Name.itemCount, Name.startDate,
     Name.endDate, Name.skipBots, Name.serviceAwardLevels] fun entries =>
    (fun wikiId columns requirements orderBy itemCount window skipBots ladder =>
      (⟨wikiId, columns, requirements, orderBy, itemCount, window.val, skipBots, ladder, window.property⟩ :
        Request)) <$>
      required entries Name.wikiId readText <*>
      defaulted entries Name.columns [] (readList readColumn) <*>
      possible entries Name.requirements readRequirement <*>
      defaulted entries Name.orderBy [] (readList readOrderBy) <*>
      possible entries Name.itemCount readNatural <*>
      readWindow entries <*>
      defaulted entries Name.skipBots false readBool <*>
      possible entries Name.serviceAwardLevels (readList readRung)

/-- Reads a group of a pyramid. -/
def readPyramidGroup : Reader PyramidGroup :=
  readObject "PyramidGroup" fun entries =>
    PyramidGroup.mk <$> required entries Name.name readText <*>
      required entries Name.requirements readRequirement

/-- Reads a pyramid. -/
def readPyramid : Reader Pyramid :=
  readObject "PyramidDefinition" fun entries =>
    Pyramid.mk <$> required entries Name.id readText <*> required entries Name.name readText <*>
      required entries Name.groups (readList readPyramidGroup)

/-- Reads a known wiki. -/
def readKnownWiki : Reader KnownWiki :=
  readObject "KnownWiki" fun entries =>
    KnownWiki.mk <$> required entries Name.id readText <*> required entries Name.domain readText <*>
      required entries Name.replicaDatabaseName readText <*>
      required entries Name.languageCode readText <*> required entries Name.timeZone readText <*>
      defaulted entries Name.flaglessBots [] (readList readText) <*>
      defaulted entries Name.hasServiceAwards false readBool <*>
      possible entries Name.serviceAwardPageName readText

/-- Reads a ladder from a file. -/
def readLadderFile : Reader Ladder := readListOr .notList readRung

/-- Reads the list of known wikis from a file. -/
def readKnownWikisFile : Reader (List KnownWiki) := readListOr .notList readKnownWiki

end ActivityReport.Payload
