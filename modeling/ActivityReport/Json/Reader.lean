import ActivityReport.Json.Token

/-!
# Reading JSON text

The reader walks once over the tokens with a stack of the lists and objects that are still open
(`Frame`) and a note of what may come next (`Due`). It reports the first fault with its place; the
place is told as a line, a column and a number of characters. Lists and objects may not be nested
more than `maxDepth` levels deep.
-/

namespace ActivityReport.Json

/-- The entries of an object so far, and whether a key with an unpaired half of a surrogate pair was among
them. -/
structure Members where
  entries : List (String × Json)
  broken : Bool
  deriving Repr

namespace Members

/-- No entries. -/
def empty : Members := ⟨[], false⟩

/-- One more entry. -/
def set (m : Members) (key : Content) (value : Json) : Members :=
  if key.broken then { m with broken := true }
  else { m with entries := setEntry key.text value m.entries }

/-- The object with these entries. -/
def toJson (m : Members) : Json := if m.broken then .brokenObject m.entries else .object m.entries

end Members

/-- A list with its items so far, last first, or an object with its entries so far and the key whose
value is due. -/
inductive Frame where
  | list (reversed : List Json)
  | object (members : Members) (key : Content)
  deriving Repr

/-- What may come next. -/
inductive Due where
  /-- A value. -/
  | value
  /-- A value, or the end of the list just opened. -/
  | firstItem
  /-- A key, or the end of the object just opened. -/
  | firstKey
  /-- A key, after a comma. -/
  | key (members : Members)
  /-- The colon after a key. -/
  | colon (members : Members) (key : Content)
  /-- A comma or the end of the list. -/
  | listRest (reversed : List Json)
  /-- A comma or the end of the object. -/
  | objectRest (members : Members)
  /-- The end of the text. -/
  | finish (value : Json)
  deriving Repr

/-- The state of the reader. -/
structure State where
  stack : List Frame
  due : Due
  deriving Repr

/-- The state before the first token. -/
def State.start : State := ⟨[], .value⟩

/-- The state after a whole value. -/
def State.close (value : Json) : List Frame → State
  | [] => ⟨[], .finish value⟩
  | .list reversed :: stack => ⟨stack, .listRest (value :: reversed)⟩
  | .object members key :: stack => ⟨stack, .objectRest (members.set key value)⟩

/-- How many lists and objects may be open at a time. -/
def maxDepth : Nat := 991

/-- The state after the opening of a list or an object. -/
def State.enter (stack : List Frame) (isList : Bool) (t : Token) : Except Fault State :=
  if maxDepth ≤ stack.length then .error ⟨.tooDeep isList, t.start⟩
  else .ok ⟨stack, if isList then .firstItem else .firstKey⟩

/-- The state after a token that stands where a value is due. -/
def State.value (stack : List Frame) (t : Token) : Except Fault State :=
  match t.lexeme with
  | .openList => State.enter stack true t
  | .openObject => State.enter stack false t
  | .text content => (fun c => State.close c.toJson stack) <$> content
  | .scalar value => (State.close · stack) <$> value
  | _ => .error ⟨.expectedValue, t.start⟩

/-- The state after a token that stands where a key is due. -/
def State.key (stack : List Frame) (members : Members) (t : Token) : Except Fault State :=
  match t.lexeme with
  | .text content => (fun c => ⟨stack, .colon members c⟩) <$> content
  | _ => .error ⟨.expectedKey, t.start⟩

/-- The state after one more token. -/
def State.step (st : State) (t : Token) : Except Fault State :=
  match st.due, t.lexeme with
  | .value, _ => State.value st.stack t
  | .firstItem, .closeList => .ok (State.close (.list []) st.stack)
  | .firstItem, _ => State.value (.list [] :: st.stack) t
  | .firstKey, .closeObject => .ok (State.close (.object []) st.stack)
  | .firstKey, _ => State.key st.stack .empty t
  | .key members, _ => State.key st.stack members t
  | .colon members key, .colon => .ok ⟨.object members key :: st.stack, .value⟩
  | .colon .., _ => .error ⟨.expectedColon, t.start⟩
  | .listRest reversed, .comma => .ok ⟨.list reversed :: st.stack, .value⟩
  | .listRest reversed, .closeList => .ok (State.close (.list reversed.reverse) st.stack)
  | .listRest _, _ => .error ⟨.expectedComma, t.start⟩
  | .objectRest members, .comma => .ok ⟨st.stack, .key members⟩
  | .objectRest members, .closeObject => .ok (State.close members.toJson st.stack)
  | .objectRest _, _ => .error ⟨.expectedComma, t.start⟩
  | .finish _, .finish => .ok st
  | .finish _, _ => .error ⟨.extraData, t.start⟩

/-- Reads JSON text. -/
def read (cs : List Char) : Except Fault Json := do
  if cs.head? = some '\ufeff' then throw ⟨.byteOrderMark, 0⟩
  match ← (tokens cs).foldlM State.step State.start with
  | ⟨_, .finish value⟩ => return value
  | _ => throw ⟨.expectedValue, cs.length⟩

/-! ## Faults in words -/

/-- The cause in words. -/
def Cause.message : Cause → String
  | .byteOrderMark => "Unexpected UTF-8 BOM (decode using utf-8-sig)"
  | .expectedValue => "Expecting value"
  | .expectedKey => "Expecting property name enclosed in double quotes"
  | .expectedColon => "Expecting ':' delimiter"
  | .expectedComma => "Expecting ',' delimiter"
  | .extraData => "Extra data"
  | .unterminatedText => "Unterminated string starting at"
  | .invalidEscape => "Invalid \\escape"
  | .invalidUnicodeEscape => "Invalid \\uXXXX escape"
  | .controlCharacter => "Invalid control character at"
  | .integerTooLong digits =>
    s!"Exceeds the limit (4300 digits) for integer string conversion: value has {digits} digits; " ++
    "use sys.set_int_max_str_digits() to increase the limit"
  | .tooDeep isList =>
    "maximum recursion depth exceeded while decoding a JSON " ++
    (if isList then "array" else "object") ++ " from a unicode string"

/-- Whether the place belongs to the words of a cause. -/
def Cause.hasPlace : Cause → Bool
  | .integerTooLong _ | .tooDeep _ => false
  | _ => true

/-- The line of a place, from 1. -/
def lineOf (cs : List Char) (offset : Nat) : Nat := (cs.take offset).count '\n' + 1

/-- The column of a place, from 1. -/
def columnOf (cs : List Char) (offset : Nat) : Nat :=
  ((cs.take offset).reverse.takeWhile (· != '\n')).length + 1

/-- The fault in words, with its place in the text. -/
def Fault.message (cs : List Char) (f : Fault) : String :=
  if f.cause.hasPlace then
    s!"{f.cause.message}: line {lineOf cs f.offset} column {columnOf cs f.offset} (char {f.offset})"
  else f.cause.message

end ActivityReport.Json
