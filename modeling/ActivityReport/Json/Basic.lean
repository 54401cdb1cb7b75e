/-!
# JSON values

The values of JSON text. Whole numbers and numbers with a fraction or an exponent are kept apart,
and the entries of an object keep the order in which their keys first appeared. An escape may name
half of a surrogate pair without its other half, which is no character; texts and objects with such a
half are kept apart too.
-/

namespace ActivityReport

/-- A JSON value. -/
inductive Json where
  | null
  | bool (b : Bool)
  | int (n : Int)
  | float (x : Float)
  | text (s : String)
  | list (items : List Json)
  | object (entries : List (String × Json))
  /-- A text with an unpaired half; a noncharacter stands in the place of each. -/
  | brokenText (s : String)
  /-- An object that has such a text among its keys, and its entries under the other keys. -/
  | brokenObject (entries : List (String × Json))
  deriving Inhabited, Repr

namespace Json

/-- Sets a key of an object: a key that is there keeps its place and takes the new value. -/
def setEntry (key : String) (value : Json) : List (String × Json) → List (String × Json)
  | [] => [(key, value)]
  | (k, v) :: rest => if k = key then (k, value) :: rest else (k, v) :: setEntry key value rest

/-- The value under a key. -/
def lookup? (key : String) : List (String × Json) → Option Json
  | [] => none
  | (k, v) :: rest => if k = key then some v else lookup? key rest

/-- The value under a key of an object. -/
def get? (j : Json) (key : String) : Option Json :=
  match j with
  | .object entries | .brokenObject entries => lookup? key entries
  | _ => none

/-- Whether a value counts as filled in: null, false, zero and what is empty do not. -/
def isFilled : Json → Bool
  | .null => false
  | .bool b => b
  | .int n => n != 0
  | .float x => x != 0
  | .text s | .brokenText s => s != ""
  | .list items => !items.isEmpty
  | .object entries => !entries.isEmpty
  | .brokenObject _ => true

/-- The kind of a value by name. -/
def kindName : Json → String
  | .null => "NoneType"
  | .bool _ => "bool"
  | .int _ => "int"
  | .float _ => "float"
  | .text _ | .brokenText _ => "str"
  | .list _ => "list"
  | .object _ | .brokenObject _ => "dict"

/-- After setting a key, looking it up finds the value. -/
theorem lookup?_setEntry (key : String) (value : Json) (entries : List (String × Json)) :
    lookup? key (setEntry key value entries) = some value := by
  induction entries with
  | nil => simp [setEntry, lookup?]
  | cons e rest ih =>
    by_cases h : e.1 = key <;> simp [setEntry, lookup?, h, ih]

/-- Setting a key leaves the other keys alone. -/
theorem lookup?_setEntry_of_ne {key other : String} (ne : other ≠ key) (value : Json)
    (entries : List (String × Json)) :
    lookup? other (setEntry key value entries) = lookup? other entries := by
  induction entries with
  | nil => simp [setEntry, lookup?, Ne.symm ne]
  | cons e rest ih =>
    by_cases h : e.1 = key
    · have : e.1 ≠ other := fun same => ne (same ▸ h)
      simp [setEntry, lookup?, h, Ne.symm ne]
    · by_cases same : e.1 = other
      · simp [setEntry, lookup?, same, ne]
      · simp [setEntry, lookup?, h, same, ih]

end Json

end ActivityReport
