import ActivityReport.Calendar.Window
import ActivityReport.Json.Basic
import ActivityReport.Number.Text
import ActivityReport.Payload.Checked

/-!
# Scalars of a payload

Readers of texts, whole numbers, truth values and names. They are lenient in fixed ways: a whole
number may be a truth value, a double without a fraction or a text, and a truth value may be one of
a few words or the numbers 0 and 1. A text that is not a sequence of characters is only good as a text.
-/

namespace ActivityReport.Payload

open Checked Number Text

/-- Reads a value of a payload. -/
abbrev Reader (α : Type) := Json → Checked α

/-- Reads a text. -/
def readText : Reader String
  | .text s | .brokenText s => ok s
  | _ => problem .notText

/-! ## Whole numbers -/

/-- What a text says when it is read as a plain whole number. -/
inductive PlainInteger where
  | value (n : Int)
  | tooLong
  | malformed
  deriving DecidableEq, Repr

/-- Reads a plain whole number: digits after an optional minus sign, without a zero in front of other
digits. A run of digits that is too long is told before what follows it is looked at. -/
def plainInteger (cs : List Char) : PlainInteger :=
  let negative := cs.head? == some '-'
  let (ds, rest) := spanDigits (if negative then cs.drop 1 else cs)
  if ds.head? == some '0' then
    if ds.length = 1 && rest.isEmpty then .value 0 else .malformed
  else if ds.length > maxIntegerDigits then .tooLong
  else if ds.isEmpty || !rest.isEmpty then .malformed
  else .value (if negative then -(digitRun ds : Int) else digitRun ds)

/-- Drops zeros in front of a number. Underscores may stand among them, and a minus sign may follow
them; the last character in front of a point or the end is kept. -/
def dropLeadingZeros : List Char → Option (List Char)
  | '0' :: rest => afterZeros '0' rest
  | c :: rest => if c == '-' || isAsciiDigit c then some (c :: rest) else none
  | [] => none
where
  /-- What follows zeros and underscores, of which the last was `last`. -/
  afterZeros (last : Char) : List Char → Option (List Char)
  | [] => some [last]
  | c :: rest =>
    if c == '0' || c == '_' then afterZeros c rest
    else if c == '-' || isAsciiDigit c then some (c :: rest)
    else if c == '.' then some (last :: c :: rest)
    else none

/-- Drops a point with one zero or more, and nothing else, after it. -/
def dropZeroFraction (cs : List Char) : List Char :=
  match cs.dropWhile (· != '.') with
  | '.' :: zeros => if !zeros.isEmpty && zeros.all (· == '0') then cs.takeWhile (· != '.') else cs
  | _ => cs

/-- Drops single underscores between other characters. -/
def dropUnderscores (cs : List Char) : List Char :=
  let doubled := (cs.zip cs.tail).any fun p => p == ('_', '_')
  if cs.head? == some '_' || cs.getLast? == some '_' || doubled then cs else cs.filter (· != '_')

/-- Drops a plus sign that no minus sign follows. -/
def dropPlus : List Char → Option (List Char)
  | '+' :: '-' :: _ => none
  | '+' :: rest => some rest
  | cs => some cs

/-- The plain form of a whole number that is spelled with zeros in front, a fraction of zeros or
underscores. -/
def plainDigits? (cs : List Char) : Option (List Char) := do
  return dropUnderscores (dropZeroFraction (← dropLeadingZeros cs))

/-- The plain form of a whole number behind its sign: a plus sign is dropped and a minus sign kept. -/
def plainForm? : List Char → Option (List Char)
  | '-' :: rest => ('-' :: ·) <$> plainDigits? rest
  | cs => do plainDigits? (← dropPlus cs)

/-- Reads a whole number from a text, as it stands or else from its plain form without the blanks around
it. Only a text that begins with digits is told to have too many of them. -/
def integerOfText (s : String) : Checked Int :=
  match plainInteger s.toList with
  | .value n => ok n
  | .tooLong => problem .integerSize
  | .malformed =>
    match (plainForm? (trim isBlank s.toList)).map plainInteger with
    | some (.value n) => ok n
    | _ => problem .integerText

/-- The doubles that are read as whole numbers lie strictly inside the range of 64-bit words. -/
def isInnerWord (n : Int) : Bool := -0x8000000000000000 < n && n < 0x8000000000000000

/-- Reads a whole number from a double. -/
def integerOfFloat (x : Float) : Checked Int :=
  match parts? x with
  | none => problem .notFinite
  | some _ =>
    match whole? x with
    | none => problem .fractional
    | some n => if isInnerWord n then ok n else problem .integerSize

/-- Reads a whole number. -/
def readInteger : Reader Int
  | .int n => ok n
  | .bool b => ok (if b then 1 else 0)
  | .float x => integerOfFloat x
  | .text s => integerOfText s
  | .brokenText _ => problem .brokenText
  | _ => problem .notInteger

/-- Reads a whole number that is not negative. -/
def readNatural : Reader Nat := fun j =>
  (readInteger j).andThen fun n => if n < 0 then problem .negative else ok n.toNat

/-! ## Truth values and names -/

/-- The truth value of a number. -/
def boolOfInteger (n : Int) : Checked Bool :=
  if n = 0 then ok false else if n = 1 then ok true else problem .booleanText

/-- The words for false. -/
def falseWords : List String := ["0", "f", "n", "no", "off", "false"]

/-- The words for true. -/
def trueWords : List String := ["1", "t", "y", "yes", "on", "true"]

/-- Reads a truth value from a word, in upper or lower case. -/
def boolOfText (s : String) : Checked Bool :=
  let word := String.ofList (s.toList.map Char.toLower)
  if falseWords.contains word then ok false
  else if trueWords.contains word then ok true
  else problem .booleanText

/-- Reads a truth value. -/
def readBool : Reader Bool
  | .bool b => ok b
  | .int n => if fitsWord n then boolOfInteger n else problem .notBoolean
  | .float x =>
    match integerOfFloat x with
    | .ok n => boolOfInteger n
    | .refused _ => problem .notBoolean
  | .text s => boolOfText s
  | .brokenText _ => problem .brokenText
  | _ => problem .notBoolean

/-- Reads one of several names. -/
def readName {α : Type} (choices : List String) (ofName? : String → Option α) : Reader α
  | .text s =>
    match ofName? s with
    | some a => ok a
    | none => problem (.notOneOf choices)
  | .brokenText _ => problem .brokenText
  | _ => problem (.notOneOf choices)

/-- The name of the epoch before the first day of the window. -/
def startOfPeriodName : String := "startOfSelectedPeriod"

/-- Reads an epoch: nothing, a number of days or the name of the start of the period. -/
def readEpoch : Reader (Option Epoch)
  | .null => ok none
  | j =>
    if let .text s := j then
      if s = startOfPeriodName then ok (some .startOfPeriod) else offset j else offset j
where
  /-- Reads a number of days; a refusal says that the name is not there either. -/
  offset (j : Json) : Checked (Option Epoch) :=
    match readInteger j with
    | .ok n => ok (some (.offset n))
    | .refused issues =>
      refused (issues.map (Issue.under "int") ++ [⟨[s!"literal['{startOfPeriodName}']"], noName j⟩])
  /-- Why a value is not the name. -/
  noName : Json → Problem
  | .brokenText _ => .brokenText
  | _ => .notOneOf [startOfPeriodName]

end ActivityReport.Payload
