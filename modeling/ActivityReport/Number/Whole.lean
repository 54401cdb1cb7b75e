import ActivityReport.Number.Extended
import ActivityReport.Text.Blank
import ActivityReport.Text.Quoted

/-!
# Whole numbers by force

The whole number that a text spells or that a double is cut to, where one must be had; otherwise the
reason why there is none.
-/

namespace ActivityReport.Number

/-- Why there is no whole number. -/
inductive WholeFault where
  | text (s : String)
  | tooLong (digits : Nat)
  | infinite
  | notANumber
  /-- A decimal number that is infinite. -/
  | infiniteDecimal
  /-- A decimal number that is no number. -/
  | noDecimal
  /-- A decimal number with too many zeros to be written out. -/
  | tooLarge
  /-- A value of a kind that has no whole numbers. -/
  | kind (name : String)
  deriving DecidableEq, Repr

/-- The name of the kind of a fault. -/
def WholeFault.name : WholeFault → String
  | .infinite | .infiniteDecimal => "OverflowError"
  | .kind _ => "TypeError"
  | .tooLarge => "MemoryError"
  | _ => "ValueError"

/-- How much of a quoted text is shown at most, in characters. -/
def shownLength : Nat := 200

/-- The fault in words. -/
def WholeFault.message : WholeFault → String
  | .text s =>
    s!"invalid literal for int() with base 10: {String.ofList ((Text.quoted s).toList.take shownLength)}"
  | .tooLong n =>
    s!"Exceeds the limit ({maxIntegerDigits} digits) for integer string conversion: value has {n} digits; " ++
    "use sys.set_int_max_str_digits() to increase the limit"
  | .infinite => "cannot convert float infinity to integer"
  | .notANumber => "cannot convert float NaN to integer"
  | .infiniteDecimal => "cannot convert Infinity to integer"
  | .noDecimal => "cannot convert NaN to integer"
  | .tooLarge => ""
  | .kind name =>
    s!"int() argument must be a string, a bytes-like object or a real number, not '{name}'"

/-- Whether a character is an ASCII digit or the underscore that groups digits. -/
def isDigitOrSeparator (c : Char) : Bool := Text.isAsciiDigit c || c == '_'

/-- The whole number that a text spells, with a sign before its digits and white space at the ends. The
length of the digits is checked before what follows them. -/
def wholeOfText (s : String) : Except WholeFault Int :=
  let (negative, rest) := splitSign ((asciiDigits s.toList).dropWhile Text.isBlank)
  match dropSeparators false (rest.takeWhile isDigitOrSeparator) with
  | none => .error (.text s)
  | some ds =>
    if maxIntegerDigits < ds.length then .error (.tooLong ds.length)
    else if ds.isEmpty || !(rest.dropWhile isDigitOrSeparator).all Text.isBlank then .error (.text s)
    else .ok (if negative then -(digitRun ds : Int) else digitRun ds)

/-- The whole number that a double is cut to. -/
def wholeOfFloat (x : Float) : Except WholeFault Int :=
  match truncate? x with
  | some n => .ok n
  | none => .error (if x.isNaN then .notANumber else .infinite)

/-- The whole number that a decimal number is cut to. -/
def wholeOfDecimal : ExtendedDecimal → Except WholeFault Int
  | .finite x => (x.truncate?.map .ok).getD (.error .tooLarge)
  | .infinite _ => .error .infiniteDecimal
  | .undefined .. => .error .noDecimal

/-- The whole number that a number is cut to. -/
def Numeral.toWhole : Numeral → Except WholeFault Int
  | .whole n => .ok n
  | .real x => wholeOfFloat x

end ActivityReport.Number
