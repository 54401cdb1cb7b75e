import ActivityReport.Sorting.Search

/-!
# Runs

A list is sorted run by run. The run at the head of the list that is in order already stays as it is, a run
in strictly reverse order is turned round, and a run that is too short is filled up with the items after it,
each inserted after the items that it is not less than.
-/

namespace ActivityReport.Sorting

variable {α ε : Type}

/-- The items after `previous` as far as each of them passes a test with the one before it, and the rest. -/
def spanRun (follows : α → α → Except ε Bool) (previous : α) : List α → Except ε (List α × List α)
  | [] => return ([], [])
  | x :: rest => do
    if ← follows previous x then
      let (run, left) ← spanRun follows x rest
      return (x :: run, left)
    else return ([], x :: rest)

/-- The run at the head of a list, in order, and the rest of the list. -/
def leadingRun (less : Less ε α) : List α → Except ε (List α × List α)
  | [] => return ([], [])
  | [x] => return ([x], [])
  | x :: y :: rest => do
    if ← less y x then
      let (run, left) ← spanRun (fun a b => less b a) y rest
      return ((x :: y :: run).reverse, left)
    else
      let (run, left) ← spanRun (fun a b => (! ·) <$> less b a) y rest
      return (x :: y :: run, left)

/-- A run with one more item inserted, whose place is found by halving. -/
def insertInto (less : Less ε α) (run : List α) (x : α) : Except ε (List α) := do
  let i ← bisect (testAt (fun y => (! ·) <$> less x y) run.toArray) 0 run.length
  return run.take i ++ x :: run.drop i

/-- The run at the head of a list, filled up to a size as far as there are items, and the rest. -/
def nextRun (less : Less ε α) (size : Nat) (xs : List α) : Except ε (List α × List α) := do
  let (run, rest) ← leadingRun less xs
  return (← (rest.take (size - run.length)).foldlM (insertInto less) run, rest.drop (size - run.length))

/-- The least length of the runs of `n` items: all of them when they are fewer than 64, else from 32 to 64,
so that `n` divided by it is near to a power of 2 and not above it. -/
def minimalRun (n : Nat) : Nat :=
  if n < 64 then n else halved n 0
where
  /-- Halves a number until it is below 64, and adds 1 if anything was lost. -/
  halved (n lost : Nat) : Nat :=
    if n < 64 then n + lost else halved (n / 2) (max lost (n % 2))
  termination_by n

end ActivityReport.Sorting
