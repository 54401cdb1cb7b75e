import ActivityReport.Sorting.Search

/-!
# Merging two runs

Two runs that follow one another are merged into one. What already stands in its place at both ends is left
out first; then the shorter run is set aside and the merge goes toward it, from the front or from the back.
Items are compared one by one until one run has won so many times in a row that its items are searched for
in leaps. How many times that must be is the patience of the merge; it grows when leaping did not pay and
shrinks while it does.
-/

namespace ActivityReport.Sorting

variable {α ε : Type}

/-- How a merge goes on. -/
inductive Gait where
  /-- Item by item; each run has won so many times in a row. -/
  | stepping (left right : Nat)
  /-- In leaps, for the first time in a row or again. -/
  | leaping (first : Bool)
  deriving DecidableEq, Repr

/-- How many items a leap must cover to be worth another, and the patience to begin with. -/
def leapLength : Nat := 7

/-- The patience with which a leap is taken: one less for each leap after the first, but at least 1. -/
def patienceFor (first : Bool) (patience : Nat) : Nat :=
  if first || patience ≤ 1 then patience else patience - 1

/-- The gait after a leap over some items of both runs, and the patience. -/
def afterLeap (left right patience : Nat) : Gait × Nat :=
  if leapLength ≤ left || leapLength ≤ right then (.leaping false, patience)
  else (.stepping 0 0, patience + 1)

/-- Merges two runs from the front; what is merged already is given in reverse. The last item of the left
run goes to the end. With the merged run the patience is given back. -/
def mergeFront (less : Less ε α) (gait : Gait) (patience : Nat) (merged left right : List α) :
    Except ε (List α × Nat) :=
  match left, right with
  | [], right => return (merged.reverse ++ right, patience)
  | [x], right => return (merged.reverse ++ right ++ [x], patience)
  | left, [] => return (merged.reverse ++ left, patience)
  | x :: x' :: left, y :: right =>
    match gait with
    | .stepping l r => do
      if ← less y x then
        mergeFront less (if patience ≤ r + 1 then .leaping true else .stepping 0 (r + 1)) patience
          (y :: merged) (x :: x' :: left) right
      else
        mergeFront less (if patience ≤ l + 1 then .leaping true else .stepping (l + 1) 0) patience
          (x :: merged) (x' :: left) (y :: right)
    | .leaping first => do
      let patience := patienceFor first patience
      let whole := x :: x' :: left
      let l ← placeAfter less y whole.toArray 0
      let merged := (whole.take l).reverse ++ merged
      match _h : whole.drop l with
      | [] => return (merged.reverse ++ y :: right, patience)
      | [last] => return (merged.reverse ++ y :: right ++ [last], patience)
      | z :: z' :: left' =>
        if right.isEmpty then return ((y :: merged).reverse ++ z :: z' :: left', patience)
        let r ← placeBefore less z right.toArray 0
        let merged := (right.take r).reverse ++ y :: merged
        if (right.drop r).isEmpty then return (merged.reverse ++ z :: z' :: left', patience)
        if left'.isEmpty then return ((z :: merged).reverse ++ right.drop r ++ [z'], patience)
        let (gait, patience) := afterLeap l r patience
        mergeFront less gait patience (z :: merged) (z' :: left') (right.drop r)
termination_by left.length + right.length
decreasing_by
  · simp only [List.length_cons]; omega
  · simp only [List.length_cons]; omega
  · have shorter := congrArg List.length _h
    simp only [whole, List.length_drop, List.length_cons] at shorter ⊢
    omega

/-- Merges two runs, both given in reverse, from the back; what is merged already is given in order. The
first item of the right run goes to the front. With the merged run the patience is given back. -/
def mergeBack (less : Less ε α) (gait : Gait) (patience : Nat) (left right merged : List α) :
    Except ε (List α × Nat) :=
  match left, right with
  | [], right => return (right.reverse ++ merged, patience)
  | left, [] => return (left.reverse ++ merged, patience)
  | left, [y] => return (y :: left.reverse ++ merged, patience)
  | x :: left, y :: y' :: right =>
    match gait with
    | .stepping l r => do
      if ← less y x then
        mergeBack less (if patience ≤ l + 1 then .leaping true else .stepping (l + 1) 0) patience
          left (y :: y' :: right) (x :: merged)
      else
        mergeBack less (if patience ≤ r + 1 then .leaping true else .stepping 0 (r + 1)) patience
          (x :: left) (y' :: right) (y :: merged)
    | .leaping first => do
      let patience := patienceFor first patience
      let whole := x :: left
      let l := whole.length - (← placeAfter less y whole.reverse.toArray (whole.length - 1))
      let merged := (whole.take l).reverse ++ merged
      match _h : whole.drop l with
      | [] => return ((y :: y' :: right).reverse ++ merged, patience)
      | z :: left' =>
        if right.isEmpty then return (y' :: (z :: left').reverse ++ y :: merged, patience)
        let others := y' :: right
        let r := others.length - (← placeBefore less z others.reverse.toArray (others.length - 1))
        let merged := (others.take r).reverse ++ y :: merged
        match _k : others.drop r with
        | [] => return ((z :: left').reverse ++ merged, patience)
        | [last] => return (last :: (z :: left').reverse ++ merged, patience)
        | w :: w' :: right' =>
          if left'.isEmpty then return ((w :: w' :: right').reverse ++ z :: merged, patience)
          let (gait, patience) := afterLeap l r patience
          mergeBack less gait patience left' (w :: w' :: right') (z :: merged)
termination_by left.length + right.length
decreasing_by
  · simp only [List.length_cons]; omega
  · simp only [List.length_cons]; omega
  · have shorter := congrArg List.length _h
    have other := congrArg List.length _k
    simp only [whole, others, List.length_drop, List.length_cons] at shorter other ⊢
    omega

/-- Merges the left and the right one of two runs that follow one another. -/
def merge (less : Less ε α) (patience : Nat) (left right : List α) : Except ε (List α × Nat) := do
  match right with
  | [] => return (left, patience)
  | first :: _ =>
    let fixed ← placeAfter less first left.toArray 0
    let moving := left.drop fixed
    match moving.getLast? with
    | none => return (left ++ right, patience)
    | some last =>
      let reach ← placeBefore less last right.toArray (right.length - 1)
      if reach = 0 then return (left ++ right, patience)
      let (middle, patience) ←
        if moving.length ≤ reach then
          mergeFront less (.stepping 0 0) patience (right.take 1) moving ((right.take reach).drop 1)
        else
          mergeBack less (.stepping 0 0) patience (moving.reverse.drop 1) (right.take reach).reverse [last]
      return (left.take fixed ++ middle ++ right.drop reach, patience)

end ActivityReport.Sorting
