import ActivityReport.Cell.Display
import ActivityReport.Number.Order
import ActivityReport.Text.CaseFold

/-!
# Order of cells

How two cells of a column are compared. Texts are compared without regard to case, numbers by value, days
by the calendar and lists item by item. A text is compared with the text of any other cell; apart from that
only cells of one kind can be compared. `tryOrder` and `tryCompare` compare any two cells and tell why they
cannot; `order` is the order that they give to the cells of one family.
-/

namespace ActivityReport

/-- The families of cells that have one order each. -/
inductive CellFamily where
  | number
  | text
  | day
  | texts
  deriving DecidableEq, Repr

/-- All families. -/
def CellFamily.all : List CellFamily := [number, text, day, texts]

/-- Why two cells cannot be compared. -/
inductive OrderFault where
  /-- Cells of two kinds have no order; the kinds by name. -/
  | kinds (left right : String)
  /-- A decimal number is compared where one of the two is no number. -/
  | notANumber
  /-- A moment is compared with a day. -/
  | momentAndDay
  /-- Only one of two clocks has a known distance from universal time. -/
  | clocks
  deriving DecidableEq, Repr

namespace OrderFault

/-- The name of the kind of a fault. -/
def name : OrderFault → String
  | notANumber => ExtendedDecimal.misuseName
  | _ => "TypeError"

/-- The fault in words. -/
def message : OrderFault → String
  | kinds left right => s!"'>' not supported between instances of '{left}' and '{right}'"
  | notANumber => ExtendedDecimal.misuseMessage
  | momentAndDay => "can't compare datetime.datetime to datetime.date"
  | clocks => "can't compare offset-naive and offset-aware datetimes"

end OrderFault

namespace Cell

open Number

/-! ## Numbers -/

/-- The number in a cell that is one, unless it is decimal. -/
def number? : Cell → Option Number.Numeral
  | int n => some (.whole n)
  | float x => some (.real x)
  | minusNaN => some (.real notANumber)
  | bool b => some (.whole (if b then 1 else 0))
  | _ => none

/-- The number in a cell of any numeric kind, with whether it is decimal. -/
def quantity? : Cell → Option (Bool × ExtendedDecimal)
  | int n => some (false, .ofInt n)
  | bool b => some (false, .ofInt (if b then 1 else 0))
  | float x => some (false, .ofFloat x)
  | minusNaN => some (false, .ofFloat notANumber)
  | decimal x => some (true, x)
  | _ => none

/-- Whether two numbers are equal; what is no number equals nothing. -/
def sameQuantity (a b : ExtendedDecimal) : Except OrderFault Bool :=
  if a.isSignaling || b.isSignaling then .error .notANumber else .ok (a.order? b == some .eq)

/-- The order of two numbers, each with whether it is decimal. Among doubles what is no number has the place
of every number; decimal numbers have no order with it. -/
def orderQuantity (a b : Bool × ExtendedDecimal) : Except OrderFault Ordering :=
  match a.2.order? b.2 with
  | some o => .ok o
  | none => if a.1 || b.1 then .error .notANumber else .ok .eq

/-! ## Cells of any kind -/

mutual

/-- Whether two cells are equal. Numbers of all kinds are compared by value. -/
def same : Cell → Cell → Except OrderFault Bool
  | null, null => .ok true
  | text s, text t => .ok (s == t)
  | date d, date e => .ok (d == e)
  | timestamp t, timestamp u => .ok (t.isComparable u && t.compare u == .eq)
  | list as, list bs => if as.length = bs.length then sameItems as bs else .ok false
  | record as, record bs => if as.length = bs.length then sameEntries as bs else .ok false
  | a, b =>
    match a.quantity?, b.quantity? with
    | some x, some y => sameQuantity x.2 y.2
    | _, _ => .ok false

/-- Whether the items of two lists are equal, as far as both go. -/
def sameItems : List Cell → List Cell → Except OrderFault Bool
  | a :: as, b :: bs => do if ← same a b then sameItems as bs else return false
  | _, _ => .ok true

/-- Whether a record has all entries of another. -/
def sameEntries : List (String × Cell) → List (String × Cell) → Except OrderFault Bool
  | [], _ => .ok true
  | (key, a) :: rest, bs =>
    match bs.find? (·.1 == key) with
    | some entry => do if ← same a entry.2 then sameEntries rest bs else return false
    | none => .ok false

end

/-- Whether a cell is found where another is looked up. -/
def isSame (a b : Cell) : Bool :=
  match a.same b with
  | .ok b => b
  | .error _ => false

mutual

/-- The order of two cells, if they have one: texts by code point, lists by the first items that differ. -/
def tryOrder : Cell → Cell → Except OrderFault Ordering
  | text s, text t => .ok (compare s t)
  | date d, date e => .ok (compare d.ordinal e.ordinal)
  | timestamp t, timestamp u => if t.isComparable u then .ok (t.compare u) else .error .clocks
  | date _, timestamp _ | timestamp _, date _ => .error .momentAndDay
  | list as, list bs => tryOrderItems as bs
  | a, b =>
    match a.quantity?, b.quantity? with
    | some x, some y => orderQuantity x y
    | _, _ => .error (.kinds a.kindName b.kindName)

/-- The order of two lists, if they have one. -/
def tryOrderItems : List Cell → List Cell → Except OrderFault Ordering
  | [], [] => .ok .eq
  | [], _ :: _ => .ok .lt
  | _ :: _, [] => .ok .gt
  | a :: as, b :: bs => do if ← same a b then tryOrderItems as bs else tryOrder a b

end

/-- The order of two texts without regard to case, by code point. -/
def compareFolded (a b : String) : Ordering :=
  compare (Text.caseFold a) (Text.caseFold b)

/-- The order of two cells of a column, if they have one: a text is compared without regard to case, with
the text of any other cell. -/
def tryCompare (a b : Cell) : Except OrderFault Ordering :=
  match a with
  | text s => .ok (compareFolded s b.display)
  | a => a.tryOrder b

/-! ## Cells of one family -/

/-- The family of a cell; not-a-number is in none. -/
def family? : Cell → Option CellFamily
  | bool _ | int _ => some .number
  | float x => if x.isNaN then none else some .number
  | text _ => some .text
  | date _ => some .day
  | list items => if items.all (·.text?.isSome) then some .texts else none
  | null | minusNaN | decimal _ | timestamp _ | record _ => none

/-- The order of two cells of one family. -/
def order (a b : Cell) : Ordering :=
  match a, b with
  | text s, b => compareFolded s b.display
  | date d, date e => compare d.ordinal e.ordinal
  | list as, list bs => compare (as.filterMap text?) (bs.filterMap text?)
  | a, b =>
    match a.number?, b.number? with
    | some m, some n => m.compare n
    | _, _ => .eq

/-- Whether a cell has no value or is of a family. -/
def fits (c : Cell) (f : CellFamily) : Bool := c.isNull || c.family? == some f

/-- Whether a cell is above zero: a number that is, or any text or day. -/
def isPositive : Cell → Bool
  | null | minusNaN => false
  | int n => 0 < n
  | float x => (Number.Numeral.real x).compare (.whole 0) == .gt
  | _ => true

end Cell

end ActivityReport
