import ActivityReport.Catalog.Column

/-!
# Issues

What can be wrong with a payload. An `Issue` is a `Problem` with the path that leads to it; all issues
of a payload are reported together, ordered by path and then by the code of the problem.
-/

namespace ActivityReport

/-- A rule that values may break together although each is valid on its own. -/
inductive Rule where
  | emptyLogFilter
  | columnNeeds (tag : String) (shape : ParameterShape)
  | columnRefuses (tag : String) (shape : ParameterShape)
  | endBeforeStart
  deriving DecidableEq, Repr

/-- The rule in words. -/
def Rule.message : Rule → String
  | .emptyLogFilter => "A log filter needs logType, logAction or both"
  | .columnNeeds tag shape => s!"Column '{tag}' requires '{shape.name}'"
  | .columnRefuses tag shape => s!"Column '{tag}' does not accept '{shape.name}'"
  | .endBeforeStart => "endDate must be >= startDate"

/-- Why a place of a payload is refused. -/
inductive Problem where
  | missing
  | extra
  | notObject (model : String)
  | notList
  | notTuple
  | notText
  /-- A text, or a key, with an unpaired half of a surrogate pair. -/
  | brokenText
  | notInteger
  | integerText
  | integerSize
  | notFinite
  | fractional
  | negative
  | notBoolean
  | booleanText
  | notOneOf (choices : List String)
  | notAColumn
  | notDate
  | yearZero
  | dateText
  | notMidnight
  | rule (r : Rule)
  deriving DecidableEq, Repr

namespace Problem

/-- The code of a problem. -/
def code : Problem → String
  | missing => "missing"
  | extra => "extra_forbidden"
  | notObject _ => "model_type"
  | notList => "list_type"
  | notTuple => "tuple_type"
  | notText => "string_type"
  | brokenText => "string_unicode"
  | notInteger => "int_type"
  | integerText => "int_parsing"
  | integerSize => "int_parsing_size"
  | notFinite => "finite_number"
  | fractional => "int_from_float"
  | negative => "greater_than_equal"
  | notBoolean => "bool_type"
  | booleanText => "bool_parsing"
  | notOneOf _ => "literal_error"
  | notAColumn => "enum"
  | notDate => "date_type"
  | yearZero => "date_parsing"
  | dateText => "date_from_datetime_parsing"
  | notMidnight => "date_from_datetime_inexact"
  | rule _ => "value_error"

/-- Choices in words: between quotes, the last after an "or". -/
def choiceText : List String → String
  | [] => ""
  | [a] => s!"'{a}'"
  | [a, b] => s!"'{a}' or '{b}'"
  | a :: rest => s!"'{a}', " ++ choiceText rest

/-- The problem in words. -/
def message : Problem → String
  | missing => "Field required"
  | extra => "Extra inputs are not permitted"
  | notObject model => s!"Input should be a valid dictionary or instance of {model}"
  | notList => "Input should be a valid list"
  | notTuple => "Input should be a valid tuple"
  | notText => "Input should be a valid string"
  | brokenText => "Input should be a valid string, unable to parse raw data as a unicode string"
  | notInteger => "Input should be a valid integer"
  | integerText => "Input should be a valid integer, unable to parse string as an integer"
  | integerSize => "Unable to parse input string as an integer, exceeded maximum size"
  | notFinite => "Input should be a finite number"
  | fractional => "Input should be a valid integer, got a number with a fractional part"
  | negative => "Input should be greater than or equal to 0"
  | notBoolean => "Input should be a valid boolean"
  | booleanText => "Input should be a valid boolean, unable to interpret input"
  | notOneOf choices => "Input should be " ++ choiceText choices
  | notAColumn => "Input should be " ++ choiceText (ColumnType.all.map ColumnType.tag)
  | notDate => "Input should be a valid date"
  | yearZero => "Input should be a valid date in the format YYYY-MM-DD, year 0 is out of range"
  | dateText => "Input should be a valid date or datetime"
  | notMidnight => "Datetimes provided to dates should have zero time - e.g. be exact dates"
  | rule r => "Value error, " ++ r.message

/-- Whether the words of a problem are part of the report of a request. -/
def isRule : Problem → Bool
  | rule _ => true
  | _ => false

end Problem

/-- A problem and the path to it. -/
structure Issue where
  path : List String
  problem : Problem
  deriving DecidableEq, Repr

namespace Issue

/-- The issue seen from one level further out. -/
def under (key : String) (i : Issue) : Issue := { i with path := key :: i.path }

/-- The order of the report: by path, a shorter one first, then by code. -/
def le (a b : Issue) : Bool :=
  match compare a.path b.path with
  | .lt => true
  | .gt => false
  | .eq => a.problem.code ≤ b.problem.code

/-- Issues in the order of the report. -/
def report (issues : List Issue) : List Issue := issues.mergeSort le

end Issue

end ActivityReport
