/-!
# Searching a run

Finding the place of an item in a run by a comparison that may fail, and of which nothing is asked: neither
that it is transitive nor that it is total. A search starts at a place where the item is expected, goes away
from it in steps that double, and halves the last step.
-/

namespace ActivityReport.Sorting

variable {α ε : Type}

/-- Whether one item is less than another, unless they cannot be compared. -/
abbrev Less (ε α : Type) : Type := α → α → Except ε Bool

/-- A test of the item at a place; where there is no item it does not hold. -/
def testAt (test : α → Except ε Bool) (items : Array α) (i : Nat) : Except ε Bool :=
  match items[i]? with
  | some a => test a
  | none => .ok false

/-- The first place from `low` to `high` at which a test does not hold, found by halving. -/
def bisect (test : Nat → Except ε Bool) (low high : Nat) : Except ε Nat :=
  if low < high then do
    let middle := low + (high - low) / 2
    if ← test middle then bisect test (middle + 1) high else bisect test low middle
  else return low
termination_by high - low

/-- The last step at which a test holds and the next one, among steps that double and end at a limit. -/
def stride (test : Nat → Except ε Bool) (limit last next : Nat) : Except ε (Nat × Nat) :=
  if next < limit then do
    if ← test next then stride test limit next (2 * next + 1) else return (last, next)
  else return (last, limit)
termination_by limit - next

/-- The place of an item before the items that are not less than it; the search starts at `hint`. -/
def placeBefore (less : Less ε α) (x : α) (items : Array α) (hint : Nat) : Except ε Nat := do
  let below := testAt (less · x) items
  if ← below hint then
    let (last, next) ← stride (fun step => below (hint + step)) (items.size - hint) 0 1
    bisect below (hint + last + 1) (hint + next)
  else
    let (last, next) ← stride (fun step => (! ·) <$> below (hint - step)) (hint + 1) 0 1
    bisect below (hint + 1 - next) (hint - last)

/-- The place of an item after the items that it is not less than; the search starts at `hint`. -/
def placeAfter (less : Less ε α) (x : α) (items : Array α) (hint : Nat) : Except ε Nat := do
  let above := testAt (less x) items
  let notAbove (i : Nat) := (! ·) <$> above i
  if ← above hint then
    let (last, next) ← stride (fun step => above (hint - step)) (hint + 1) 0 1
    bisect notAbove (hint + 1 - next) (hint - last)
  else
    let (last, next) ← stride (fun step => notAbove (hint + step)) (items.size - hint) 0 1
    bisect notAbove (hint + last + 1) (hint + next)

end ActivityReport.Sorting
