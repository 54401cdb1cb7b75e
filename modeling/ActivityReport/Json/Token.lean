import ActivityReport.Json.Basic
import ActivityReport.Number.Text

/-!
# Tokens of JSON text

Splits JSON text into tokens, each with its place. A malformed string or number is itself a token
that carries its fault, because the reader only complains about it where a value is due. The last
token is a malformed one, a stray character, or the end of the text.
-/

namespace ActivityReport.Json

/-- What can be wrong with JSON text. -/
inductive Cause where
  | byteOrderMark
  | expectedValue
  | expectedKey
  | expectedColon
  | expectedComma
  | extraData
  | unterminatedText
  | invalidEscape
  | invalidUnicodeEscape
  | controlCharacter
  | integerTooLong (digits : Nat)
  /-- Too many lists and objects are open when one more begins. -/
  | tooDeep (isList : Bool)
  deriving DecidableEq, Repr

/-- A fault and the number of characters before it. -/
structure Fault where
  cause : Cause
  offset : Nat
  deriving DecidableEq, Repr

/-- The characters of a string, and whether an unpaired half of a surrogate pair is among them. -/
structure Content where
  text : String
  broken : Bool
  deriving DecidableEq, Repr

/-- The string as a value. -/
def Content.toJson (c : Content) : Json := if c.broken then .brokenText c.text else .text c.text

/-- The kinds of token. -/
inductive Lexeme where
  | openList
  | closeList
  | openObject
  | closeObject
  | comma
  | colon
  | text (content : Except Fault Content)
  | scalar (value : Except Fault Json)
  | stray
  | finish
  deriving Repr

/-- A token and the number of characters before it. -/
structure Token where
  start : Nat
  lexeme : Lexeme
  deriving Repr

/-! ## Strings -/

/-- The value of a hexadecimal digit. -/
def hexDigit? (c : Char) : Option Nat :=
  if '0' ≤ c ∧ c ≤ '9' then some (c.toNat - 48)
  else if 'a' ≤ c ∧ c ≤ 'f' then some (c.toNat - 87)
  else if 'A' ≤ c ∧ c ≤ 'F' then some (c.toNat - 55)
  else none

/-- The value of four hexadecimal digits that are not the last characters of a text. -/
def hexQuad? (cs : List Char) : Option Nat := do
  guard !(cs.drop 4).isEmpty
  (cs.take 4).foldlM (fun n c => (hexDigit? c).map (16 * n + ·)) 0

/-- The character that a backslash and a letter stand for. -/
def simpleEscape? : Char → Option Char
  | '"' => some '"'
  | '\\' => some '\\'
  | '/' => some '/'
  | 'b' => some '\x08'
  | 'f' => some '\x0c'
  | 'n' => some '\n'
  | 'r' => some '\r'
  | 't' => some '\t'
  | _ => none

/-- Whether a code unit is the first half of a surrogate pair. -/
def isHighSurrogate (n : Nat) : Bool := 0xD800 ≤ n && n ≤ 0xDBFF

/-- Whether a code unit is the second half of a surrogate pair. -/
def isLowSurrogate (n : Nat) : Bool := 0xDC00 ≤ n && n ≤ 0xDFFF

/-- The noncharacter that stands for an unpaired half of a surrogate pair. -/
def brokenChar : Char := '\uffff'

/-- The characters read so far, last first. -/
structure Scanned where
  reversed : List Char
  broken : Bool

/-- The state before the first character. -/
def Scanned.empty : Scanned := ⟨[], false⟩

/-- One more character. -/
def Scanned.push (r : Scanned) (c : Char) : Scanned := { r with reversed := c :: r.reversed }

/-- One more code unit, which is a character unless it is half of a surrogate pair. -/
def Scanned.pushUnit (r : Scanned) (n : Nat) : Scanned :=
  if isHighSurrogate n || isLowSurrogate n then ⟨brokenChar :: r.reversed, true⟩
  else r.push (Char.ofNat n)

/-- The string that has been read. -/
def Scanned.content (r : Scanned) : Content := ⟨String.ofList r.reversed.reverse, r.broken⟩

/-- The second unit of a surrogate pair, when another `\u` escape follows. -/
inductive PairTail where
  | none
  | invalid
  | unit (n : Nat)

/-- Looks for a second `\u` escape that is not at the very end of the text. -/
def pairTail (cs : List Char) : PairTail :=
  match cs with
  | '\\' :: 'u' :: rest =>
    if (rest.drop 4).isEmpty then .none
    else
      match hexQuad? rest with
      | some n => .unit n
      | none => .invalid
  | _ => .none

/-- Reads a string after its opening quote at `opened`; `pos` is the place of the next character.
Returns the content and the place after the closing quote. -/
def scanText (opened pos : Nat) (cs : List Char) (acc : Scanned) : Except Fault Content × Nat :=
  match cs with
  | [] => (.error ⟨.unterminatedText, opened⟩, pos)
  | '"' :: _ => (.ok acc.content, pos + 1)
  | '\\' :: [] => (.error ⟨.unterminatedText, opened⟩, pos)
  | '\\' :: c :: rest =>
    if c = 'u' then
      match hexQuad? rest with
      | none => (.error ⟨.invalidUnicodeEscape, pos + 1⟩, pos)
      | some n =>
        if isHighSurrogate n then
          match pairTail (rest.drop 4) with
          | .none => scanText opened (pos + 6) (rest.drop 4) (acc.pushUnit n)
          | .invalid => (.error ⟨.invalidUnicodeEscape, pos + 7⟩, pos)
          | .unit low =>
            if isLowSurrogate low then
              let joined := 0x10000 + (n - 0xD800) * 0x400 + (low - 0xDC00)
              scanText opened (pos + 12) ((rest.drop 4).drop 6) (acc.push (Char.ofNat joined))
            else scanText opened (pos + 6) (rest.drop 4) (acc.pushUnit n)
        else scanText opened (pos + 6) (rest.drop 4) (acc.pushUnit n)
    else
      match simpleEscape? c with
      | some e => scanText opened (pos + 2) rest (acc.push e)
      | none => (.error ⟨.invalidEscape, pos⟩, pos)
  | c :: rest =>
    if c.toNat ≤ 0x1F then (.error ⟨.controlCharacter, pos⟩, pos)
    else scanText opened (pos + 1) rest (acc.push c)
termination_by cs.length
decreasing_by
  all_goals simp only [List.length_cons, List.length_drop]
  all_goals omega

/-! ## Numbers and words -/

/-- The words that stand for values. -/
def words : List (List Char × Json) :=
  [("null".toList, .null), ("true".toList, .bool true), ("false".toList, .bool false),
   ("NaN".toList, .float (0.0 / 0.0)), ("Infinity".toList, .float (1.0 / 0.0)),
   ("-Infinity".toList, .float (-1.0 / 0.0))]

open Text Number in
/-- The digits of the whole part of a number: a single zero, or digits that begin with another. -/
def wholeDigits : List Char → List Char
  | '0' :: _ => ['0']
  | cs => cs.takeWhile isAsciiDigit

open Text in
/-- The characters of a point and the digits after it. -/
def fractionPart : List Char → List Char
  | '.' :: rest =>
    let ds := rest.takeWhile isAsciiDigit
    if ds.isEmpty then [] else '.' :: ds
  | _ => []

open Text in
/-- The characters of an exponent. -/
def exponentPart : List Char → List Char
  | [] => []
  | e :: rest =>
    if e = 'e' ∨ e = 'E' then
      let sign := match rest with
        | '+' :: _ => ['+']
        | '-' :: _ => ['-']
        | _ => []
      let ds := (rest.drop sign.length).takeWhile isAsciiDigit
      if ds.isEmpty then [] else e :: sign ++ ds
    else []

open Text Number in
/-- Reads a number at `pos`: its value and its length. -/
def scanNumber? (pos : Nat) (cs : List Char) : Option (Except Fault Json × Nat) :=
  let sign := if cs.head? = some '-' then ['-'] else []
  let whole := wholeDigits (cs.drop sign.length)
  if whole.isEmpty then none
  else
    let fraction := fractionPart (cs.drop (sign.length + whole.length))
    let power := exponentPart (cs.drop (sign.length + whole.length + fraction.length))
    let size := sign.length + whole.length + fraction.length + power.length
    if fraction.isEmpty && power.isEmpty then
      if whole.length > maxIntegerDigits then some (.error ⟨.integerTooLong whole.length, pos⟩, size)
      else
        let n : Int := digitRun whole
        some (.ok (.int (if sign.isEmpty then n else -n)), size)
    else
      let value := ((decimal? (sign ++ whole ++ fraction ++ power)).map Decimal.toFloat).getD 0.0
      some (.ok (.float value), size)

/-- Reads a word or a number at `pos`: its value and its length. -/
def scanScalar? (pos : Nat) (cs : List Char) : Option (Except Fault Json × Nat) :=
  match words.find? fun w => w.1.isPrefixOf cs with
  | some (w, value) => some (.ok value, w.length)
  | none => scanNumber? pos cs

/-! ## Splitting -/

/-- Whether a character may stand between tokens. -/
def isGap (c : Char) : Bool := c == ' ' || c == '\t' || c == '\n' || c == '\r'

/-- The token of a punctuation mark. -/
def punctuation? : Char → Option Lexeme
  | '[' => some .openList
  | ']' => some .closeList
  | '\x7b' => some .openObject
  | '\x7d' => some .closeObject
  | ',' => some .comma
  | ':' => some .colon
  | _ => none

/-- The tokens of a text whose first character has the place `pos`. -/
def tokensFrom (pos : Nat) (cs : List Char) : List Token :=
  match cs with
  | [] => [⟨pos, .finish⟩]
  | c :: rest =>
    if isGap c then tokensFrom (pos + 1) rest
    else
      match punctuation? c with
      | some mark => ⟨pos, mark⟩ :: tokensFrom (pos + 1) rest
      | none =>
        if c = '"' then
          let (content, stop) := scanText pos (pos + 1) rest Scanned.empty
          match content with
          | .ok s => ⟨pos, .text (.ok s)⟩ :: tokensFrom stop (rest.drop (stop - (pos + 1)))
          | .error f => [⟨pos, .text (.error f)⟩]
        else
          match scanScalar? pos (c :: rest) with
          | some (.ok v, size) => ⟨pos, .scalar (.ok v)⟩ :: tokensFrom (pos + size) (rest.drop (size - 1))
          | some (.error f, _) => [⟨pos, .scalar (.error f)⟩]
          | none => [⟨pos, .stray⟩]
termination_by cs.length
decreasing_by
  all_goals simp only [List.length_cons, List.length_drop]
  all_goals omega

/-- The tokens of a text. -/
def tokens (cs : List Char) : List Token := tokensFrom 0 cs

end ActivityReport.Json
