/-!
# Identifiers

The name of a column as it stands in the text of a query. A plain name stands as it is; any other, also the
empty one, is put between quotes, and a quote inside it is written twice. `Identifiers` holds what a database decides: its
quote, its reserved words, and whether the text goes through a formatter that needs percent signs doubled.
-/

namespace ActivityReport

/-- How a database writes identifiers. -/
structure Identifiers where
  quote : Char
  doublesPercent : Bool
  reserved : List String

namespace Identifiers

/-- Whether a character may stand in a plain name: the small letters, to which a dotless i and a long s
belong, the digits, the underscore and the dollar sign. -/
def isPlainChar (c : Char) : Bool :=
  c.isLower || c.isDigit || c == '_' || c == '$' || c == 'ı' || c == 'ſ'

/-- Whether a name cannot begin with a character: a digit or a dollar sign. -/
def isBadStart (c : Char) : Bool := c.isDigit || c == '$'

/-- The characters without the line end after them. -/
def dropFinalNewline (cs : List Char) : List Char :=
  if cs.getLast? = some '\n' then cs.dropLast else cs

/-- Whether a name has plain characters only; a line end after them does not count. -/
def isPlain (cs : List Char) : Bool :=
  let body := dropFinalNewline cs
  !body.isEmpty && body.all isPlainChar && !cs.head?.any isBadStart

/-- A character inside quotes. -/
def quoteChar (ids : Identifiers) (c : Char) : List Char :=
  if c = ids.quote ∨ (c = '%' ∧ ids.doublesPercent) then [c, c] else [c]

/-- A name between quotes. -/
def quoted (ids : Identifiers) (cs : List Char) : List Char :=
  ids.quote :: cs.flatMap ids.quoteChar ++ [ids.quote]

/-- A name as it stands in a query. -/
def write (ids : Identifiers) (name : String) : String :=
  if isPlain name.toList && !ids.reserved.contains name then name
  else String.ofList (ids.quoted name.toList)

end Identifiers

end ActivityReport
