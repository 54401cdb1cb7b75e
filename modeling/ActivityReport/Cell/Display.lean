import ActivityReport.Cell.Basic
import ActivityReport.Json.Display

/-!
# Cells in words

The names of the kinds of cells, and cells as they are written: a text as it is, everything else by its
literal. In lists and records texts stand between quotes, and decimal numbers and days as the calls that
make them.
-/

namespace ActivityReport

namespace Cell

/-- The name of the kind of a cell. -/
def kindName : Cell → String
  | null => "NoneType"
  | bool _ => "bool"
  | int _ => "int"
  | float _ | minusNaN => "float"
  | decimal _ => "decimal.Decimal"
  | text _ => "str"
  | date _ => "datetime.date"
  | timestamp _ => "datetime.datetime"
  | list _ => "list"
  | record _ => "dict"

/-- A day as the call that makes it. -/
def dateLiteral (d : Date) : String := s!"datetime.date({d.year}, {d.month}, {d.day})"

mutual

/-- The literal of a cell. -/
def literal : Cell → String
  | null => "None"
  | bool b => Json.boolLiteral b
  | int n => toString n
  | float x => Number.shortest x
  | minusNaN => Number.shortest Number.notANumber
  | decimal x => "Decimal('" ++ x.text ++ "')"
  | text s => Text.quoted s
  | date d => dateLiteral d
  | timestamp t => t.literal
  | list items => "[" ++ ", ".intercalate (literals items) ++ "]"
  | record entries => "\x7b" ++ ", ".intercalate (entryLiterals entries) ++ "\x7d"

/-- The literals of the items of a list. -/
def literals : List Cell → List String
  | [] => []
  | c :: rest => c.literal :: literals rest

/-- The literals of the entries of a record. -/
def entryLiterals : List (String × Cell) → List String
  | [] => []
  | (key, c) :: rest => (Text.quoted key ++ ": " ++ c.literal) :: entryLiterals rest

end

/-- The text of a cell. -/
def display : Cell → String
  | text s => s
  | decimal x => x.text
  | date d => d.toIso
  | timestamp t => t.toText
  | c => c.literal

/-- Why a cell cannot be looked up among others. -/
inductive KeyFault where
  /-- Cells of the kind have no fixed value. -/
  | kind (name : String)
  /-- A decimal number must not be worked with. -/
  | signaling
  deriving DecidableEq, Repr

/-- The fault in words. -/
def KeyFault.message : KeyFault → String
  | kind name => s!"unhashable type: '{name}'"
  | signaling => "Cannot hash a signaling NaN value"

/-- Why a cell cannot be looked up among others, if it cannot. -/
def keyFault? : Cell → Option KeyFault
  | c@(list _) | c@(record _) => some (.kind c.kindName)
  | decimal x => if x.isSignaling then some .signaling else none
  | _ => none

end Cell

end ActivityReport
