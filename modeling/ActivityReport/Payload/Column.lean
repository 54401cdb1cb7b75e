import ActivityReport.Payload.Condition
import ActivityReport.Request.Column

/-!
# Columns of a payload

Reader of a requested column. Its parameters are read first; then the one that its type asks for must
be there, without being empty, and no other may be there. The first parameter that breaks this rule is
reported.
-/

namespace ActivityReport.Payload

open Checked

namespace Name

def type : FieldName := .ofWords ["type"]
def columnId : FieldName := .ofWords ["column", "id"]
def logFilter : FieldName := .ofWords ["log", "filter"]
def milestones : FieldName := .ofWords ["milestones"]
def filterByRule : FieldName := .ofWords ["filter", "by", "rule"]

end Name

/-- The name of the rule that drops rows without a positive value. -/
def moreThanZeroName : String := "moreThanZero"

/-- Reads the rule that drops rows. -/
def readRowRule : Reader Unit :=
  readName [moreThanZeroName] fun s => if s = moreThanZeroName then some () else none

/-- Reads a column type. -/
def readColumnType : Reader ColumnType
  | .text s =>
    match ColumnType.ofTag? s with
    | some t => ok t
    | none => problem .notAColumn
  | .brokenText _ => problem .brokenText
  | _ => problem .notAColumn

/-- The parameters of a column as they are given. -/
structure GivenParameters where
  namespaces : Option (List Int)
  changeTags : Option (List ChangeTagFilter)
  logFilters : Option (List LogFilter)
  milestones : Option (List Int)
  deriving DecidableEq, Repr

namespace GivenParameters

/-- Whether a parameter is given. -/
def isGiven (g : GivenParameters) : ParameterShape → Bool
  | .none => false
  | .namespaces => g.namespaces.isSome
  | .changeTags => g.changeTags.isSome
  | .logFilters => g.logFilters.isSome
  | .milestones => g.milestones.isSome

/-- Whether a parameter that is asked for can be used: it is given and not empty, or it is a list of
milestones, which may be absent. -/
def isUsable (g : GivenParameters) : ParameterShape → Bool
  | .none => true
  | .namespaces => g.namespaces.any (!·.isEmpty)
  | .changeTags => g.changeTags.any (!·.isEmpty)
  | .logFilters => g.logFilters.any (!·.isEmpty)
  | .milestones => true

/-- The parameter of a shape. -/
def parameter (g : GivenParameters) : ParameterShape → Parameter
  | .none => .scopes .whole
  | .namespaces => .scopes (.namespaces (g.namespaces.getD []))
  | .changeTags => .scopes (.changeTags (g.changeTags.getD []))
  | .logFilters => .scopes (.logFilters (g.logFilters.getD []))
  | .milestones => .milestones g.milestones

/-- The rule that a parameter of a column type breaks. -/
def fault? (g : GivenParameters) (type : ColumnType) (shape : ParameterShape) : Option Rule :=
  if shape = type.shape then
    if g.isUsable shape then none else some (.columnNeeds type.tag shape)
  else if g.isGiven shape then some (.columnRefuses type.tag shape) else none

/-- The parameters in the order in which they are checked. -/
def checkOrder : List ParameterShape := [.namespaces, .changeTags, .logFilters, .milestones]

/-- A usable parameter fits the type that asks for it. -/
theorem fits_parameter {g : GivenParameters} {shape : ParameterShape} (h : g.isUsable shape = true) :
    (g.parameter shape).fits shape = true := by
  cases shape with
  | none | milestones => rfl
  | namespaces =>
    obtain ⟨ns, tags, logs, ms⟩ := g
    cases ns with
    | none => simp [isUsable] at h
    | some list => cases list <;> simp_all [isUsable, parameter, Parameter.fits]
  | changeTags =>
    obtain ⟨ns, tags, logs, ms⟩ := g
    cases tags with
    | none => simp [isUsable] at h
    | some list => cases list <;> simp_all [isUsable, parameter, Parameter.fits]
  | logFilters =>
    obtain ⟨ns, tags, logs, ms⟩ := g
    cases logs with
    | none => simp [isUsable] at h
    | some list => cases list <;> simp_all [isUsable, parameter, Parameter.fits]

/-- Parameters without a fault are usable. -/
theorem isUsable_of_fault? {g : GivenParameters} {type : ColumnType}
    (h : checkOrder.findSome? (g.fault? type) = none) : g.isUsable type.shape = true := by
  rw [List.findSome?_eq_none_iff] at h
  cases shape : type.shape with
  | none | milestones => rfl
  | namespaces | changeTags | logFilters =>
    have := h type.shape (by rw [shape]; decide)
    rw [shape] at this
    simpa [fault?, shape] using this

end GivenParameters

/-- Reads the parameters of a column. -/
def readParameters (entries : Entries) : Checked GivenParameters :=
  GivenParameters.mk <$> possible entries Name.inNamespace (readMany readInteger) <*>
    possible entries Name.changeTag (readMany readChangeTagFilter) <*>
    possible entries Name.logFilter (readMany readLogFilter) <*>
    possible entries Name.milestones (readMany readInteger)

/-- A column with the parameters given for it, when they keep the rules. -/
def Column.ofParameters (type : ColumnType) (id : Option String) (g : GivenParameters)
    (moreThanZero : Bool) : Checked Column :=
  match h : GivenParameters.checkOrder.findSome? (g.fault? type) with
  | some r => problem (.rule r)
  | none =>
    ok ⟨type, id, g.parameter type.shape, moreThanZero,
      GivenParameters.fits_parameter (GivenParameters.isUsable_of_fault? h)⟩

/-- Reads a column. -/
def readColumn : Reader Column := fun j =>
  (readStrict "ColumnSpec"
    [Name.type, Name.columnId, Name.inNamespace, Name.changeTag, Name.logFilter, Name.milestones,
     Name.filterByRule]
    (fun entries =>
      (fun type id g rule => Column.ofParameters type id g rule.isSome) <$>
        required entries Name.type readColumnType <*> possible entries Name.columnId readText <*>
        readParameters entries <*> possible entries Name.filterByRule readRowRule) j).andThen id

end ActivityReport.Payload
