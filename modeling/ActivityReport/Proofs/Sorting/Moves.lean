import ActivityReport.Proofs.Trace.Outcome
import ActivityReport.Sorting.Basic
import Mathlib.Data.List.Basic

/-!
# What a merge does

A merge puts one item after the other where it was told to stand in the other run, by a comparison or by a search
(`Placed`). From the front an item goes ahead together with the items of the other run before its place
(`Merging`, `mergeFront_merging`), and from the back a merge does the same with both runs turned round
(`mergeBack_merging`). Whatever a merge keeps is shown along these moves, once for both ways.
-/

namespace ActivityReport.Sorting

variable {α ε : Type} {less : Less ε α}

/-- How the place of an item in a run was told: next to an end of the run by comparing, or anywhere by a search. -/
inductive Placed (less : Less ε α) : List α → α → List α → Prop where
  | ahead {x y : α} {run : List α} : y ∈ run.head? → less x y = .ok true ∨ less y x = .ok false → Placed less [] x run
  | behind {x y : α} {run : List α} : y ∈ run.getLast? → less y x = .ok true ∨ less x y = .ok false →
      Placed less run x []
  | before {x : α} {run : List α} {hint k : Nat} : hint < run.length → placeBefore less x run.toArray hint = .ok k →
      Placed less (run.take k) x (run.drop k)
  | after {x : α} {run : List α} {hint k : Nat} : hint < run.length → placeAfter less x run.toArray hint = .ok k →
      Placed less (run.take k) x (run.drop k)

/-- A place told in a run turned round. -/
def PlacedBack (less : Less ε α) (before : List α) (x : α) (after : List α) : Prop :=
  Placed less after.reverse x before.reverse

/-- How two runs are merged from the front, where a relation tells the place of an item in the other run: the first
item of either goes ahead, after all that stands before its place. The last item of the left run may go to the end. -/
inductive Merging (between : List α → α → List α → Prop) : List α → List α → List α → Prop where
  | noLeft {right} : Merging between [] right right
  | noRight {left} : Merging between left [] left
  | lastLeft {x right} : Merging between [x] right (right ++ [x])
  | passLeft {left y right tail} (n : Nat) : between (left.take n) y (left.drop n) →
      Merging between (left.drop n) right tail → Merging between left (y :: right) (left.take n ++ y :: tail)
  | passRight {x left right tail} (n : Nat) : between (right.take n) x (right.drop n) →
      Merging between left (right.drop n) tail → Merging between (x :: left) right (right.take n ++ x :: tail)

/-- What merging from the front adds to what is merged already. -/
lemma mergeFront_merging {gait : Gait} {patience patience' : Nat} {merged left right out : List α}
    (h : mergeFront less gait patience merged left right = .ok (out, patience')) :
    ∃ tail, out = merged.reverse ++ tail ∧ Merging (Placed less) left right tail := by
  fun_induction mergeFront less gait patience merged left right with
  | case1 =>
    cases h
    exact ⟨_, rfl, .noLeft⟩
  | case2 gait patience merged x right =>
    cases h
    exact ⟨right ++ [x], by rw [List.append_assoc], .lastLeft⟩
  | case3 =>
    cases h
    exact ⟨_, rfl, .noRight⟩
  | case4 patience merged x x' left y right l r ihRight ihLeft =>
    obtain ⟨isLess, compared, h⟩ := bind_eq_ok.1 h
    cases isLess with
    | true =>
      obtain ⟨tail, rfl, rest⟩ := ihRight h
      exact ⟨y :: tail, by simp, .passLeft 0 (.ahead rfl (.inl compared)) rest⟩
    | false =>
      obtain ⟨tail, rfl, rest⟩ := ihLeft h
      exact ⟨x :: tail, by simp, .passRight 0 (.ahead rfl (.inr compared)) rest⟩
  | case5 patience merged x x' left y right first leapPatience whole ih =>
    obtain ⟨l, placed, h⟩ := bind_eq_ok.1 h
    have leap : ∀ {tail}, Merging (Placed less) (whole.drop l) right tail →
        Merging (Placed less) whole (y :: right) (whole.take l ++ y :: tail) :=
      .passLeft l (.after (by simp [whole]) placed)
    simp only at h
    split at h
    -- the leap may leave nothing, one item or more of the left run
    · rename_i rest
      obtain ⟨rfl, -⟩ := Prod.mk.inj (Except.ok.inj h)
      rw [rest] at leap
      exact ⟨_, by simp, leap .noLeft⟩
    · rename_i z rest
      obtain ⟨rfl, -⟩ := Prod.mk.inj (Except.ok.inj h)
      rw [rest] at leap
      exact ⟨_, by simp, leap .lastLeft⟩
    · rename_i z z' left' rest
      rw [rest] at leap
      split at h
      · rename_i none
        obtain ⟨rfl, -⟩ := Prod.mk.inj (Except.ok.inj h)
        obtain rfl := List.isEmpty_iff.1 none
        exact ⟨_, by simp, leap .noRight⟩
      · rename_i some
        obtain ⟨r, placed', h⟩ := bind_eq_ok.1 h
        have inside : 0 < right.length := List.length_pos_iff.2 fun none => some (List.isEmpty_iff.2 none)
        have leap' : ∀ {tail}, Merging (Placed less) (z' :: left') (right.drop r) tail →
            Merging (Placed less) whole (y :: right) (whole.take l ++ y :: (right.take r ++ z :: tail)) :=
          fun rest => leap (.passRight r (.before inside placed') rest)
        split at h
        · rename_i none
          obtain ⟨rfl, -⟩ := Prod.mk.inj (Except.ok.inj h)
          rw [List.isEmpty_iff.1 none] at leap'
          exact ⟨_, by simp, leap' .noRight⟩
        · split at h
          · rename_i none
            obtain ⟨rfl, -⟩ := Prod.mk.inj (Except.ok.inj h)
            obtain rfl := List.isEmpty_iff.1 none
            exact ⟨_, by simp, leap' .lastLeft⟩
          · obtain ⟨tail, rfl, rest'⟩ := ih l z z' left' rest r _ _ h
            exact ⟨_, by simp, leap' rest'⟩

/-- What merging from the back adds to what is merged already: turned round, the runs are merged from the front, and
the right one is the left one. -/
lemma mergeBack_merging {gait : Gait} {patience patience' : Nat} {left right merged out : List α}
    (h : mergeBack less gait patience left right merged = .ok (out, patience')) :
    ∃ tail, out = tail.reverse ++ merged ∧ Merging (PlacedBack less) right left tail := by
  fun_induction mergeBack less gait patience left right merged with
  | case1 =>
    cases h
    exact ⟨_, rfl, .noRight⟩
  | case2 =>
    cases h
    exact ⟨_, rfl, .noLeft⟩
  | case3 gait patience merged left y =>
    cases h
    exact ⟨left ++ [y], by simp, .lastLeft⟩
  | case4 patience merged x left y y' right l r ihLeft ihRight =>
    obtain ⟨isLess, compared, h⟩ := bind_eq_ok.1 h
    cases isLess with
    | true =>
      obtain ⟨tail, rfl, rest⟩ := ihLeft h
      have placed : PlacedBack less [] x (y :: y' :: right) := .behind (by simp) (.inl compared)
      exact ⟨x :: tail, by simp, .passLeft 0 placed rest⟩
    | false =>
      obtain ⟨tail, rfl, rest⟩ := ihRight h
      have placed : PlacedBack less [] y (x :: left) := .behind (by simp) (.inr compared)
      exact ⟨y :: tail, by simp, .passRight 0 placed rest⟩
  | case5 patience merged x left y y' right isFirst leapPatience whole ih =>
    obtain ⟨place, placed, h⟩ := bind_eq_ok.1 h
    have leap : ∀ {tail}, Merging (PlacedBack less) (y' :: right) (whole.drop (whole.length - place)) tail →
        Merging (PlacedBack less) (y :: y' :: right) whole (whole.take (whole.length - place) ++ y :: tail) := by
      refine .passRight _ ?_
      rw [PlacedBack, ← List.take_reverse, ← List.drop_reverse]
      exact .after (by simp [whole]) placed
    simp only at h
    split at h
    · rename_i rest
      obtain ⟨rfl, -⟩ := Prod.mk.inj (Except.ok.inj h)
      rw [rest] at leap
      exact ⟨_, by simp, leap .noRight⟩
    · rename_i z left' rest
      rw [rest] at leap
      split at h
      · rename_i none
        obtain ⟨rfl, -⟩ := Prod.mk.inj (Except.ok.inj h)
        obtain rfl := List.isEmpty_iff.1 none
        exact ⟨_, by simp, leap .lastLeft⟩
      · obtain ⟨place', placed', h⟩ := bind_eq_ok.1 h
        have leap' : ∀ {tail},
            Merging (PlacedBack less) ((y' :: right).drop ((y' :: right).length - place')) left' tail →
            Merging (PlacedBack less) (y :: y' :: right) whole (whole.take (whole.length - place) ++
              y :: ((y' :: right).take ((y' :: right).length - place') ++ z :: tail)) := by
          refine fun rest => leap (.passLeft _ ?_ rest)
          rw [PlacedBack, ← List.take_reverse, ← List.drop_reverse]
          exact .before (by simp) placed'
        split at h
        -- the leap may leave nothing, one item or more of the right run
        · rename_i rest'
          obtain ⟨rfl, -⟩ := Prod.mk.inj (Except.ok.inj h)
          rw [rest'] at leap'
          exact ⟨_, by simp, leap' .noLeft⟩
        · rename_i last rest'
          obtain ⟨rfl, -⟩ := Prod.mk.inj (Except.ok.inj h)
          rw [rest'] at leap'
          exact ⟨_, by simp, leap' .lastLeft⟩
        · rename_i w w' right' rest'
          rw [rest'] at leap'
          split at h
          · rename_i none
            obtain ⟨rfl, -⟩ := Prod.mk.inj (Except.ok.inj h)
            obtain rfl := List.isEmpty_iff.1 none
            exact ⟨_, by simp, leap' .noRight⟩
          · obtain ⟨tail, rfl, rest''⟩ := ih place z left' rest place' w w' right' rest' _ _ h
            exact ⟨_, by simp, leap' rest''⟩

/-- How a right run joins a left one: the one may follow the other as they are; else the items of both that move are
merged, from the front after the first item of the right run or from the back before the last item of the left run. -/
inductive Joining (less : Less ε α) : List α → List α → List α → Prop where
  | noLeft {right : List α} : Joining less [] right right
  | noRight {left : List α} : Joining less left [] left
  | afterLeft {left right : List α} {y : α} : Placed less left y [] → Joining less left (y :: right) (left ++ y :: right)
  | beforeRight {left right : List α} {x : α} : Placed less [] x right →
      Joining less (left ++ [x]) right (left ++ [x] ++ right)
  | fromFront {fixed moving reached beyond tail : List α} {x y : α} : Placed less fixed y (moving ++ [x]) →
      Placed less (y :: reached) x beyond → Merging (Placed less) (moving ++ [x]) reached tail →
      Joining less (fixed ++ (moving ++ [x])) (y :: (reached ++ beyond)) (fixed ++ (y :: tail ++ beyond))
  | fromBack {fixed moving reached beyond tail : List α} {x y : α} : Placed less fixed y (moving ++ [x]) →
      Placed less (y :: reached) x beyond → Merging (PlacedBack less) (y :: reached).reverse moving.reverse tail →
      Joining less (fixed ++ (moving ++ [x])) (y :: (reached ++ beyond)) (fixed ++ (tail.reverse ++ [x] ++ beyond))

/-- What merging two runs makes of them. -/
lemma merge_joining {patience patience' : Nat} {left right out : List α}
    (h : merge less patience left right = .ok (out, patience')) : Joining less left right out := by
  cases right with
  | nil =>
    cases h
    exact .noRight
  | cons y right =>
    obtain ⟨i, found, h⟩ := bind_eq_ok.1 h
    -- what the first of the right run does not pass stays where it is
    rcases left.eq_nil_or_concat with rfl | ⟨_, _, some⟩
    · rw [List.drop_nil] at h
      cases h
      exact .noLeft
    have placed : Placed less (left.take i) y (left.drop i) := .after (by simp [some]) found
    have cut := List.take_append_drop i left
    simp only at h
    split at h
    · rename_i none
      cases h
      rw [List.getLast?_eq_none_iff.1 none] at placed cut
      rw [List.append_nil] at cut
      rw [cut] at placed
      exact .afterLeft placed
    · rename_i x isLast
      obtain ⟨moving, moves⟩ := List.getLast?_eq_some_iff.1 isLast
      rw [moves] at placed cut h
      -- and so does what the last of the left run does not reach
      obtain ⟨reach, found', h⟩ := bind_eq_ok.1 h
      have placed' : Placed less ((y :: right).take reach) x ((y :: right).drop reach) := .before (by simp) found'
      split at h
      · rename_i zero
        cases h
        rw [zero] at placed'
        rw [← cut, ← List.append_assoc]
        exact .beforeRight placed'
      · rename_i some
        obtain ⟨j, rfl⟩ := Nat.exists_eq_succ_of_ne_zero some
        have cut' := List.take_append_drop j right
        split at h
        · obtain ⟨⟨middle, _⟩, front, h⟩ := bind_eq_ok.1 h
          cases h
          obtain ⟨tail, rfl, merging⟩ := mergeFront_merging front
          simpa [cut, cut'] using Joining.fromFront placed placed' merging
        · obtain ⟨⟨middle, _⟩, back, h⟩ := bind_eq_ok.1 h
          cases h
          obtain ⟨tail, rfl, merging⟩ := mergeBack_merging back
          rw [List.reverse_append] at merging
          simpa [cut, cut'] using Joining.fromBack placed placed' merging

end ActivityReport.Sorting
