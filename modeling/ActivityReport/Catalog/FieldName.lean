/-!
# Field names

A field of a request may be spelled in two ways: on the wire its words are joined in camel case, and
the words joined by underscores are understood too. When both spellings are there, the first counts.
-/

namespace ActivityReport

/-- The two spellings of a field; the one used on the wire comes first. -/
structure FieldName where
  wire : String
  other : String
  deriving DecidableEq, Repr

namespace FieldName

/-- A word with its first letter in upper case. -/
def capitalized (word : String) : String :=
  match word.toList with
  | [] => ""
  | c :: rest => String.ofList (c.toUpper :: rest)

/-- Words joined in camel case. -/
def camel : List String → String
  | [] => ""
  | word :: rest => word ++ String.join (rest.map capitalized)

/-- Words joined by underscores. -/
def snake (words : List String) : String := "_".intercalate words

/-- The field with a name of the given words. -/
def ofWords (words : List String) : FieldName := ⟨camel words, snake words⟩

end FieldName

end ActivityReport
