/-!
# Places

Where values belong in the text of a query: a place is a percent sign, a name in parentheses and the letter
s. Some databases want one short mark instead of the name, and `fill` sets it; a place inside a quoted name
is no exception. The place of a list of values has a form of its own, which `fill` leaves alone.
-/

namespace ActivityReport.Place

/-- The number of characters of the place at the head of a text. -/
def length? : List Char → Option Nat
  | '%' :: '(' :: rest =>
    let name := rest.takeWhile (· != ')')
    if !name.isEmpty && [')', 's'].isPrefixOf (rest.drop name.length) then some (name.length + 4) else none
  | _ => none

/-- The characters that begin the place of a list of values. -/
def listMark : List Char := "__[POSTCOMPILE_".toList

/-- Whether the place of a list of values stands at the head of a text. -/
def isList (cs : List Char) : Bool :=
  let rest := cs.drop listMark.length
  let name := rest.takeWhile (· != ']')
  listMark.isPrefixOf cs && !name.isEmpty && name.length < rest.length

/-- Whether a text has a place, of a value or of a list. -/
def isIn : List Char → Bool
  | [] => false
  | c :: rest => (length? (c :: rest)).isSome || isList (c :: rest) || isIn rest

/-- Sets a mark in the places of a text, of which some characters at the head are dropped. -/
def fillAfter (mark : List Char) : Nat → List Char → List Char
  | _, [] => []
  | n + 1, _ :: rest => fillAfter mark n rest
  | 0, c :: rest =>
    match length? (c :: rest) with
    | some n => mark ++ fillAfter mark (n - 1) rest
    | none => c :: fillAfter mark 0 rest

/-- Sets a mark in the places of a text. -/
def fill (mark : List Char) (cs : List Char) : List Char := fillAfter mark 0 cs

/-- A text without places stays as it is. -/
theorem fill_eq_self {cs : List Char} (mark : List Char) (h : isIn cs = false) : fill mark cs = cs := by
  unfold fill
  induction cs with
  | nil => rfl
  | cons c rest ih =>
    simp only [isIn, Bool.or_eq_false_iff] at h
    have none : length? (c :: rest) = none := by simpa using h.1.1
    simp [fillAfter, none, ih h.2]

example : fill ['?'] "a %(x)s %()s %(y)".toList = "a ? %()s %(y)".toList := by decide

end ActivityReport.Place
