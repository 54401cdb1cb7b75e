import ActivityReport.Digest.Sha256
import ActivityReport.Schema.Scope
import ActivityReport.Text.Digit

/-!
# Aliases

The names under which tables are joined. They are made of ASCII letters, digits and underscores
(`Alias.safe` spells every other character in hexadecimal between underscores) and have a bounded
length (`Alias.bounded` replaces the tail of a long name by a digest of the whole).
-/

namespace ActivityReport.Alias

open Text

/-- Whether a character is an ASCII letter or digit. -/
def isPlain (c : Char) : Bool :=
  isAsciiDigit c || ('A' ≤ c && c ≤ 'Z') || ('a' ≤ c && c ≤ 'z')

/-- The spelling of a character that is not plain. -/
def escape (c : Char) : List Char := '_' :: Nat.toDigits 16 c.toNat ++ ['_']

/-- A text with every character spelled in plain characters and underscores. -/
def safe (cs : List Char) : List Char :=
  cs.flatMap fun c => if isPlain c then [c] else escape c

/-- The greatest length of an alias; with five characters more it fits the limits of databases. -/
def maxLength : Nat := 58

/-- The number of hexadecimal digits that stand for the tail of a long name. -/
def digestLength : Nat := 12

/-- The digits that stand for the tail of a long name. -/
def digest (cs : List Char) : List Char :=
  (Digest.Sha256.hexDigest (String.ofList cs)).take digestLength

/-- A name of at most `maxLength` characters: a longer one is cut, and the digest of the whole name
takes the place of its tail. -/
def bounded (cs : List Char) : List Char :=
  if cs.length ≤ maxLength then cs
  else cs.take (maxLength - digestLength - 1) ++ '_' :: digest cs

/-- The decimal digits of a natural number. -/
def digits (n : Nat) : List Char := Nat.toDigits 10 n

/-- The part of an alias that names a namespace; `M` stands for a minus sign. -/
def namespacePart (n : Int) : List Char :=
  if n < 0 then 'N' :: 's' :: 'M' :: digits n.natAbs else 'N' :: 's' :: digits n.natAbs

/-- The part of an alias that names a change tag; an odd tag below zero keeps its minus sign. -/
def tagPart (n : Int) : List Char :=
  'C' :: 't' :: (if n < 0 then '-' :: digits n.natAbs else digits n.natAbs)

/-- The part of an alias that names a filter of log events. -/
def logPart (f : LogFilter) : List Char :=
  let part (head : Char) (text : Option String) :=
    match text with
    | some s => 'L' :: head :: safe s.toList
    | none => []
  part 't' f.type? ++ part 'a' f.action?

/-- The part of an alias that names a scope; the whole has none. -/
def scopePart? : Scope → Option (List Char)
  | .whole => none
  | .inNamespace n => some (namespacePart n)
  | .tagged f => some (tagPart f.tag ++ ((f.inNamespace.map namespacePart).getD []))
  | .logged f => some (logPart f)

/-- An underscore and a part, when there is one. -/
def joined : Option (List Char) → List Char
  | some part => '_' :: part
  | none => []

end ActivityReport.Alias
