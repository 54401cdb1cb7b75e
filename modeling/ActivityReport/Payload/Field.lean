import ActivityReport.Payload.Scalar

/-!
# Fields of a payload

Readers of lists and of objects with named fields. A field is looked up by its wire spelling and then
by its other one; a key that no field was read from may be refused. An issue tells the spelling that
was given, and the wire spelling of a field that is absent.
-/

namespace ActivityReport.Payload

open Checked

/-- Reads nothing from null, and a value from anything else. -/
def optional {α : Type} (read : Reader α) : Reader (Option α)
  | .null => ok none
  | j => some <$> read j

/-- Reads the items of a list from a place on. -/
def readItems {α : Type} (read : Reader α) (i : Nat) : List Json → Checked (List α)
  | [] => ok []
  | j :: rest => List.cons <$> (read j).under (toString i) <*> readItems read (i + 1) rest

/-- Reads a list; anything else has the given problem. -/
def readListOr {α : Type} (p : Problem) (read : Reader α) : Reader (List α)
  | .list items => readItems read 0 items
  | _ => problem p

/-- Reads a list. -/
def readList {α : Type} (read : Reader α) : Reader (List α) := readListOr .notTuple read

/-- A single value stands for the list of it. -/
def wrapped : Json → Json
  | .null => .null
  | .list items => .list items
  | j => .list [j]

/-- Reads a list or a single value. -/
def readMany {α : Type} (read : Reader α) : Reader (List α) := fun j => readList read (wrapped j)

/-- The entries of an object. -/
abbrev Entries := List (String × Json)

/-- The entry of a field, with the spelling it was given under. -/
def field? (entries : Entries) (f : FieldName) : Option (String × Json) :=
  match Json.lookup? f.wire entries with
  | some j => some (f.wire, j)
  | none => (Json.lookup? f.other entries).map fun j => (f.other, j)

/-- Reads a field that must be there. -/
def required {α : Type} (entries : Entries) (f : FieldName) (read : Reader α) : Checked α :=
  match field? entries f with
  | some (key, j) => (read j).under key
  | none => (problem .missing).under f.wire

/-- Reads a field that may be absent. -/
def defaulted {α : Type} (entries : Entries) (f : FieldName) (absent : α) (read : Reader α) : Checked α :=
  match field? entries f with
  | some (key, j) => (read j).under key
  | none => ok absent

/-- Reads a field that may be absent or null. -/
def possible {α : Type} (entries : Entries) (f : FieldName) (read : Reader α) : Checked (Option α) :=
  defaulted entries f none (optional read)

/-- The keys that some fields were read from. -/
def usedKeys (entries : Entries) (fields : List FieldName) : List String :=
  fields.filterMap fun f => (field? entries f).map Prod.fst

/-- Refuses the keys that no field was read from. -/
def noExtras (entries : Entries) (fields : List FieldName) : Checked Unit :=
  match (entries.map Prod.fst).filter fun key => !(usedKeys entries fields).contains key with
  | [] => ok ()
  | keys => refused (keys.map fun key => ⟨[key], .extra⟩)

/-- Reads an object; anything else is not a model of the given name. -/
def readObject {α : Type} (model : String) (read : Entries → Checked α) : Reader α
  | .object entries | .brokenObject entries => read entries
  | _ => problem (.notObject model)

/-- Reads an object with the given fields and no other keys. A key that is no sequence of characters
cannot be told apart from the fields, and is the only issue of its object. -/
def readStrict {α : Type} (model : String) (fields : List FieldName) (read : Entries → Checked α) :
    Reader α
  | .brokenObject _ => problem .brokenText
  | j => readObject model (fun entries => (fun a _ => a) <$> read entries <*> noExtras entries fields) j

end ActivityReport.Payload
