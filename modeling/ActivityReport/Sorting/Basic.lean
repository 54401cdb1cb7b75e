import ActivityReport.Sorting.Merge
import ActivityReport.Sorting.Run

/-!
# Sorting

Sorting by a comparison that may fail, and of which nothing is asked. The list is cut into runs, which are
merged as soon as the next run shows that they are to be; the first comparison that fails ends the work.
Where the comparison gives all items one order, the result is the list in that order and items that are
equal keep their places; else the result depends on which items are compared, and that is fixed here.
-/

namespace ActivityReport.Sorting

variable {α ε : Type}

/-- A run that waits to be merged: where it starts, its items, and the power of the border after it. -/
structure Waiting (α : Type) where
  start : Nat
  items : List α
  power : Nat

/-- The first place at which two numbers differ as binary fractions of `n`; the places are counted from
`place`. There is one while the numbers differ, and `fuel` places are looked at. -/
def firstDifference (n : Nat) (fuel place a b : Nat) : Nat :=
  match fuel with
  | 0 => place
  | fuel + 1 =>
    if n ≤ a then firstDifference n fuel (place + 1) (2 * (a - n)) (2 * (b - n))
    else if n ≤ b then place
    else firstDifference n fuel (place + 1) (2 * a) (2 * b)

/-- The power of the border between two runs of a list of `n` items, the first of which starts at `start`:
the first binary place at which their middles differ. -/
def borderPower (n start first second : Nat) : Nat :=
  firstDifference n (n.log2 + 2) 1 (2 * start + first) (2 * start + 2 * first + second)

/-- Merges the last of the waiting runs while the border before it has a power above the given one. The last
run stands first. -/
def settle (less : Less ε α) (power patience : Nat) : List (Waiting α) → Except ε (List (Waiting α) × Nat)
  | last :: before :: rest =>
    if power < before.power then do
      let (items, patience) ← merge less patience before.items last.items
      settle less power patience ({ before with items := items } :: rest)
    else return (last :: before :: rest, patience)
  | runs => return (runs, patience)
termination_by runs => runs.length

/-- The waiting runs and one more of some items, which belongs to a list of `n`; runs before it are merged as
its border asks for. -/
def push (less : Less ε α) (n start patience : Nat) (items : List α) (runs : List (Waiting α)) :
    Except ε (List (Waiting α) × Nat) := do
  match runs with
  | [] => return ([⟨start, items, 0⟩], patience)
  | last :: _ =>
    let power := borderPower n last.start last.items.length items.length
    let (settled, patience) ← settle less power patience runs
    match settled with
    | [] => return ([⟨start, items, 0⟩], patience)
    | last :: rest => return (⟨start, items, 0⟩ :: { last with power := power } :: rest, patience)

/-- Cuts a list into runs of a least size, of which at most `fuel` are made, and lets them wait. -/
def gather (less : Less ε α) (size n : Nat) (fuel patience : Nat) (runs : List (Waiting α)) (xs : List α) :
    Except ε (List (Waiting α) × Nat) :=
  match fuel, xs with
  | 0, _ | _, [] => return (runs, patience)
  | fuel + 1, xs => do
    let (items, rest) ← nextRun less size xs
    let (runs, patience) ← push less n (n - xs.length) patience items runs
    gather less size n fuel patience runs rest

/-- Merges all waiting runs: the last two, or the two before the last when the first of the three is shorter
than the last. -/
def collapse (less : Less ε α) (patience : Nat) : List (Waiting α) → Except ε (List α)
  | [] => return []
  | [run] => return run.items
  | [last, before] => do
    return (← merge less patience before.items last.items).1
  | last :: before :: first :: rest => do
    if first.items.length < last.items.length then
      let (items, patience) ← merge less patience first.items before.items
      collapse less patience (last :: { first with items := items } :: rest)
    else
      let (items, patience) ← merge less patience before.items last.items
      collapse less patience ({ before with items := items } :: first :: rest)
termination_by runs => runs.length

/-- The list sorted. -/
def sort (less : Less ε α) (xs : List α) : Except ε (List α) := do
  let n := xs.length
  let (runs, patience) ← gather less (minimalRun n) n n leapLength [] xs
  collapse less patience runs

end ActivityReport.Sorting
