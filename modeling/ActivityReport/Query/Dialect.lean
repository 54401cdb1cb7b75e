import ActivityReport.Query.Identifier
import ActivityReport.Query.Place
import ActivityReport.Query.Reserved

/-!
# Dialects

Constructs that databases spell in different ways: the names of columns, the number of days between two
times, and the least and the greatest of several values. Of a single day neither is taken.
-/

namespace ActivityReport

/-- The databases with a spelling of their own. -/
inductive Dialect where
  | sqlite
  | mysql
  | postgresql
  deriving DecidableEq, Repr

namespace Dialect

/-- The name of a dialect. -/
def name : Dialect → String
  | sqlite => "sqlite"
  | mysql => "mysql"
  | postgresql => "postgresql"

/-- The dialect with a name. -/
def ofName? (name : String) : Option Dialect := [sqlite, mysql, postgresql].find? (·.name == name)

/-- How a dialect writes identifiers. -/
def identifiers : Dialect → Identifiers
  | sqlite => ⟨'"', false, Reserved.sqlite⟩
  | mysql => ⟨'\x60', true, Reserved.mysql⟩
  | postgresql => ⟨'"', true, Reserved.postgresql⟩

/-- Whole calendar days from an earlier time to a later one. -/
def daysBetween (d : Dialect) (later earlier : String) : String :=
  match d with
  | sqlite => s!"CAST(julianday(date({later})) - julianday(date({earlier})) AS INTEGER)"
  | mysql => s!"DATEDIFF({later}, {earlier})"
  | postgresql => s!"(CAST({later} AS DATE) - CAST({earlier} AS DATE))"

/-- A function of several values. -/
def call (function : String) (values : List String) : String :=
  function ++ "(" ++ ", ".intercalate values ++ ")"

/-- The least of several values. -/
def least (d : Dialect) (values : List String) : String :=
  call (if d = sqlite then "MIN" else "LEAST") values

/-- The greatest of several values. -/
def greatest (d : Dialect) (values : List String) : String :=
  call (if d = sqlite then "MAX" else "GREATEST") values

/-- The earliest of several days. -/
def leastDate (d : Dialect) : List String → String
  | [day] => day
  | days => d.least days

/-- The latest of several days. -/
def greatestDate (d : Dialect) : List String → String
  | [day] => day
  | days => d.greatest days

/-- The constructs. -/
inductive Construct where
  | daysBetween
  | least
  | greatest
  | leastDate
  | greatestDate
  deriving DecidableEq, Repr

/-- The construct with a name. -/
def Construct.ofName? : String → Option Construct
  | "days_between" => some .daysBetween
  | "least" => some .least
  | "greatest" => some .greatest
  | "least_date" => some .leastDate
  | "greatest_date" => some .greatestDate
  | _ => none

/-- Why a construct over some columns cannot be written. -/
inductive ConstructFault where
  | tooFew (count : Nat)
  | tooMany
  deriving DecidableEq, Repr

/-- The fault in words. -/
def ConstructFault.message : ConstructFault → String
  | tooFew n => s!"not enough values to unpack (expected 2, got {n})"
  | tooMany => "too many values to unpack (expected 2)"

/-- The name of a column as it stands in a query. -/
def column (d : Dialect) (name : String) : String := d.identifiers.write name

/-- The mark that a value is filled in at, where it has no name. -/
def mark? : Dialect → Option String
  | sqlite => some "?"
  | mysql => some "%s"
  | postgresql => none

/-- A text of a query with the marks of its dialect in all places. -/
def marked (d : Dialect) (text : String) : String :=
  match d.mark? with
  | some mark => String.ofList (Place.fill mark.toList text.toList)
  | none => text

/-- A construct over some columns, before its places are marked; the days are counted between exactly two. -/
def unmarked (d : Dialect) : Construct → List String → Except ConstructFault String
  | .daysBetween, [later, earlier] => .ok (d.daysBetween (d.column later) (d.column earlier))
  | .daysBetween, _ :: _ :: _ => .error .tooMany
  | .daysBetween, few => .error (.tooFew few.length)
  | .least, columns => .ok (d.least (columns.map d.column))
  | .greatest, columns => .ok (d.greatest (columns.map d.column))
  | .leastDate, columns => .ok (d.leastDate (columns.map d.column))
  | .greatestDate, columns => .ok (d.greatestDate (columns.map d.column))

/-- A construct over some columns. -/
def construct (d : Dialect) (c : Construct) (columns : List String) : Except ConstructFault String :=
  d.marked <$> d.unmarked c columns

end Dialect

end ActivityReport
