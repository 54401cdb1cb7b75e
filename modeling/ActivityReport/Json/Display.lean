import ActivityReport.Json.Basic
import ActivityReport.Number.Shortest
import ActivityReport.Text.Quoted

/-!
# Values in messages

How a value is written inside a line of the log: a text as it is, everything else by its literal, texts
inside lists and objects between quotes.
-/

namespace ActivityReport.Json

/-- The literal of a truth value. -/
def boolLiteral (b : Bool) : String := if b then "True" else "False"

mutual

/-- The literal of a value. -/
def literal : Json → String
  | .null => "None"
  | .bool b => boolLiteral b
  | .int n => toString n
  | .float x => Number.shortest x
  | .text s | .brokenText s => Text.quoted s
  | .list items => "[" ++ ", ".intercalate (literals items) ++ "]"
  | .object entries | .brokenObject entries => "\x7b" ++ ", ".intercalate (entryLiterals entries) ++ "\x7d"

/-- The literals of the items of a list. -/
def literals : List Json → List String
  | [] => []
  | j :: rest => j.literal :: literals rest

/-- The literals of the entries of an object. -/
def entryLiterals : List (String × Json) → List String
  | [] => []
  | (key, j) :: rest => (Text.quoted key ++ ": " ++ j.literal) :: entryLiterals rest

end

/-- A value inside a line of the log. -/
def display : Json → String
  | .text s | .brokenText s => s
  | j => j.literal

end ActivityReport.Json
