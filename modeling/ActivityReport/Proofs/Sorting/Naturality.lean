import ActivityReport.Proofs.Sorting.Permutation

/-!
# Sorting through a function

Sorting looks at items through the comparison only. So what a function makes of the items of a list is sorted
as the items are by the comparison of what the function makes of them (`sort_map`), with the same failures.
Every step is shown to go through the function, along the recursion of the step.
-/

namespace ActivityReport.Sorting

variable {α β ε : Type} {less : Less ε β} {f : α → β}

/-- The comparison of what a function makes of two items. -/
def Less.on (less : Less ε β) (f : α → β) : Less ε α := fun a b => less (f a) (f b)

/-! ## Searches -/

lemma testAt_map {test : β → Except ε Bool} {items : Array α} :
    testAt test (items.map f) = testAt (fun a => test (f a)) items := by
  funext i
  rw [testAt, testAt, Array.getElem?_map]
  cases items[i]? <;> rfl

lemma placeBefore_map {x : α} {items : List α} {hint : Nat} :
    placeBefore less (f x) (items.map f).toArray hint = placeBefore (less.on f) x items.toArray hint := by
  rw [placeBefore, placeBefore, ← List.map_toArray, testAt_map, Array.size_map]
  rfl

lemma placeAfter_map {x : α} {items : List α} {hint : Nat} :
    placeAfter less (f x) (items.map f).toArray hint = placeAfter (less.on f) x items.toArray hint := by
  rw [placeAfter, placeAfter, ← List.map_toArray, testAt_map, Array.size_map]
  rfl

/-! ## Merges -/

/-- Merging from the front goes through a function. -/
lemma mergeFront_map {gait : Gait} {patience : Nat} {merged left right : List α} :
    mergeFront less gait patience (merged.map f) (left.map f) (right.map f) =
      Prod.map (List.map f) id <$> mergeFront (less.on f) gait patience merged left right := by
  fun_induction mergeFront (less.on f) gait patience merged left right with
  | case1 => simp [mergeFront]
  | case2 => simp [mergeFront]
  | case3 gait patience merged left none one =>
    -- with one item on the left or none an earlier case applies
    rcases left with _ | ⟨x, _ | ⟨x', left⟩⟩
    · exact absurd rfl none
    · exact absurd rfl (one x)
    · simp [mergeFront]
  | case4 patience merged x x' left y right l r ihRight ihLeft =>
    simp only [List.map_cons]
    rw [mergeFront, map_bind]
    refine bind_congr fun less => ?_
    cases less with
    | true => exact ihRight
    | false => exact ihLeft
  | case5 patience merged x x' left y right first patience' whole ih =>
    -- a galloping step: the search finds the same place, so both sides are cut there and what is left of them decides
    have mapped : f x :: f x' :: left.map f = whole.map f := rfl
    simp only [List.map_cons]
    rw [mergeFront, map_bind]
    simp only [mapped, placeAfter_map]
    refine bind_congr fun l => ?_
    have cut : (f x :: f x' :: left.map f).drop l = (whole.drop l).map f := by rw [mapped, List.map_drop]
    rcases rest : whole.drop l with _ | ⟨z, _ | ⟨z', left'⟩⟩
    · rw [rest, List.map_nil] at cut
      rw [cut]
      simp [patience']
    · rw [rest, List.map_singleton] at cut
      rw [cut]
      simp [patience']
    · rw [rest, List.map_cons, List.map_cons] at cut
      rw [cut]
      have again := ih l z z' left' rest
      simp only [List.isEmpty_map]
      split
      · simp [patience']
      · rw [map_bind, placeBefore_map]
        refine bind_congr fun r => ?_
        rw [← List.map_drop, List.isEmpty_map]
        split
        · simp [patience']
        · split
          · simp [patience']
          · rw [← again]
            simp [patience']

/-- Merging from the back goes through a function. -/
lemma mergeBack_map {gait : Gait} {patience : Nat} {left right merged : List α} :
    mergeBack less gait patience (left.map f) (right.map f) (merged.map f) =
      Prod.map (List.map f) id <$> mergeBack (less.on f) gait patience left right merged := by
  fun_induction mergeBack (less.on f) gait patience left right merged with
  | case1 => simp [mergeBack]
  | case2 gait patience merged left none =>
    rcases left with _ | ⟨x, left⟩
    · exact absurd rfl none
    · simp [mergeBack]
  | case3 gait patience merged left y none =>
    rcases left with _ | ⟨x, left⟩
    · exact absurd rfl none
    · simp [mergeBack]
  | case4 patience merged x left y y' right l r ihLeft ihRight =>
    simp only [List.map_cons]
    rw [mergeBack, map_bind]
    refine bind_congr fun less => ?_
    cases less with
    | true => exact ihLeft
    | false => exact ihRight
  | case5 patience merged x left y y' right first patience' whole ih =>
    -- as from the front, with the runs the other way round: here the merge ends with one item on the right
    have mapped : f x :: left.map f = whole.map f := rfl
    simp only [List.map_cons]
    rw [mergeBack, map_bind]
    simp only [mapped, ← List.map_reverse, placeAfter_map, List.length_map]
    refine bind_congr fun place => ?_
    have cut : (f x :: left.map f).drop ((f x :: left.map f).length - place) =
        (whole.drop (whole.length - place)).map f := by
      rw [mapped, List.length_map, List.map_drop]
    rcases rest : whole.drop (whole.length - place) with _ | ⟨z, left'⟩
    · rw [rest, List.map_nil] at cut
      rw [cut]
      simp [patience']
    · rw [rest, List.map_cons] at cut
      rw [cut]
      simp only [List.isEmpty_map]
      split
      · simp [patience']
      · have mapped' : f y' :: right.map f = (y' :: right).map f := rfl
        rw [map_bind]
        simp only [mapped', ← List.map_reverse, placeBefore_map, List.length_map]
        refine bind_congr fun place' => ?_
        have cut' : (f y' :: right.map f).drop ((f y' :: right.map f).length - place') =
            ((y' :: right).drop ((y' :: right).length - place')).map f := by
          rw [mapped', List.length_map, List.map_drop]
        rcases rest' : (y' :: right).drop ((y' :: right).length - place') with _ | ⟨w, _ | ⟨w', right'⟩⟩
        · rw [rest', List.map_nil] at cut'
          rw [cut']
          simp [patience']
        · rw [rest', List.map_singleton] at cut'
          rw [cut']
          simp [patience']
        · rw [rest', List.map_cons, List.map_cons] at cut'
          rw [cut']
          have again := ih place z left' rest place' w w' right' rest'
          dsimp only
          split
          · simp [patience']
          · rw [← again]
            simp [patience']

/-- Merging goes through a function. -/
lemma merge_map {patience : Nat} {left right : List α} :
    merge less patience (left.map f) (right.map f) =
      Prod.map (List.map f) id <$> merge (less.on f) patience left right := by
  cases right with
  | nil => rfl
  | cons first right =>
    unfold merge
    simp only [List.map_cons, map_bind, placeAfter_map]
    refine bind_congr fun fixed => ?_
    rw [← List.map_drop, List.getLast?_map]
    cases (left.drop fixed).getLast? with
    | none => simp
    | some last =>
      simp only [Option.map_some, map_bind]
      rw [← List.map_cons, placeBefore_map, List.length_map]
      refine bind_congr fun reach => ?_
      split
      · simp
      · rw [List.length_map]
        -- the shorter one of the runs that move is set aside
        split
        · rw [← List.map_take, ← List.map_take, ← List.map_drop, mergeFront_map, map_bind, bind_map_left]
          refine bind_congr fun merged => ?_
          simp
        · rw [← List.map_reverse, ← List.map_take, ← List.map_reverse, ← List.map_drop, ← List.map_singleton (f := f),
            mergeBack_map, map_bind, bind_map_left]
          refine bind_congr fun merged => ?_
          simp

/-! ## Runs -/

/-- A span goes through a function. -/
lemma spanRun_map {follows : β → β → Except ε Bool} {previous : α} {xs : List α} :
    spanRun follows (f previous) (xs.map f) =
      Prod.map (List.map f) (List.map f) <$> spanRun (fun a b => follows (f a) (f b)) previous xs := by
  induction xs generalizing previous with
  | nil => rfl
  | cons x xs ih =>
    simp only [spanRun, List.map_cons, map_bind]
    refine bind_congr fun does => ?_
    cases does with
    | true =>
      simp only [if_true, ih, map_bind, bind_map_left]
      rfl
    | false => rfl

/-- The run at the head of a list goes through a function. -/
lemma leadingRun_map {xs : List α} :
    leadingRun less (xs.map f) = Prod.map (List.map f) (List.map f) <$> leadingRun (less.on f) xs := by
  rcases xs with _ | ⟨x, _ | ⟨y, rest⟩⟩
  · rfl
  · rfl
  · simp only [leadingRun, List.map_cons, map_bind]
    refine bind_congr fun isLess => ?_
    cases isLess with
    | true =>
      simp only [if_true, spanRun_map, map_bind, bind_map_left]
      refine bind_congr fun span => ?_
      simp
    | false =>
      rw [if_neg Bool.false_ne_true, if_neg Bool.false_ne_true, spanRun_map, map_bind, bind_map_left]
      refine bind_congr fun span => ?_
      simp

/-- Inserting goes through a function. -/
lemma insertInto_map {run : List α} {x : α} :
    insertInto less (run.map f) (f x) = List.map f <$> insertInto (less.on f) run x := by
  unfold insertInto
  rw [← List.map_toArray, testAt_map, List.length_map, map_bind]
  refine bind_congr fun i => ?_
  simp

/-- Inserting one item after the other goes through a function. -/
lemma foldlM_insertInto_map {items run : List α} :
    (items.map f).foldlM (insertInto less) (run.map f) = List.map f <$> items.foldlM (insertInto (less.on f)) run := by
  induction items generalizing run with
  | nil => rfl
  | cons x items ih =>
    simp only [List.map_cons, List.foldlM_cons, insertInto_map, bind_map_left, map_bind, ih]

/-- The next run goes through a function. -/
lemma nextRun_map {size : Nat} {xs : List α} :
    nextRun less size (xs.map f) = Prod.map (List.map f) (List.map f) <$> nextRun (less.on f) size xs := by
  unfold nextRun
  rw [leadingRun_map, map_bind, bind_map_left]
  refine bind_congr fun leading => ?_
  simp only [Prod.map_fst, Prod.map_snd, List.length_map, ← List.map_take, foldlM_insertInto_map,
    bind_map_left, map_bind]
  refine bind_congr fun filled => ?_
  simp

/-! ## Waiting runs -/

/-- A run that waits, with what a function makes of its items. -/
def Waiting.map (f : α → β) (w : Waiting α) : Waiting β := ⟨w.start, w.items.map f, w.power⟩

/-- Settling goes through a function. -/
lemma settle_map {power patience : Nat} {runs : List (Waiting α)} :
    settle less power patience (runs.map (Waiting.map f)) =
      Prod.map (List.map (Waiting.map f)) id <$> settle (less.on f) power patience runs := by
  fun_induction settle (less.on f) power patience runs with
  | case1 patience last before rest above ih =>
    simp only [List.map_cons]
    rw [settle, if_pos (show power < (Waiting.map f before).power from above), map_bind]
    simp only [Waiting.map, merge_map, bind_map_left]
    refine bind_congr fun merged => ?_
    exact ih merged.1 merged.2
  | case2 patience last before rest above =>
    simp only [List.map_cons]
    rw [settle, if_neg (show ¬ power < (Waiting.map f before).power from above)]
    rfl
  | case3 patience runs few =>
    rcases runs with _ | ⟨run, _ | ⟨before, rest⟩⟩
    · simp [settle]
    · simp [settle]
    · exact absurd rfl (few run before rest)

/-- One more run that waits goes through a function. -/
lemma push_map {n start patience : Nat} {items : List α} {runs : List (Waiting α)} :
    push less n start patience (items.map f) (runs.map (Waiting.map f)) =
      Prod.map (List.map (Waiting.map f)) id <$> push (less.on f) n start patience items runs := by
  cases runs with
  | nil => rfl
  | cons last rest =>
    unfold push
    simp only [List.map_cons, map_bind]
    rw [← List.map_cons, settle_map, bind_map_left]
    simp only [Waiting.map, List.length_map]
    refine bind_congr fun settled => ?_
    obtain ⟨_ | ⟨last, rest⟩, patience⟩ := settled <;> rfl

/-- Cutting a list into runs goes through a function. -/
lemma gather_map {size n fuel patience : Nat} {runs : List (Waiting α)} {xs : List α} :
    gather less size n fuel patience (runs.map (Waiting.map f)) (xs.map f) =
      Prod.map (List.map (Waiting.map f)) id <$> gather (less.on f) size n fuel patience runs xs := by
  induction fuel generalizing patience runs xs with
  | zero => simp [gather]
  | succ fuel ih =>
    cases xs with
    | nil => rfl
    | cons x xs =>
      rw [List.map_cons, gather, gather, ← List.map_cons, nextRun_map, map_bind, bind_map_left]
      · refine bind_congr fun next => ?_
        obtain ⟨items, rest⟩ := next
        simp only [Prod.map_apply, List.length_map]
        rw [push_map, map_bind, bind_map_left]
        refine bind_congr fun pushed => ?_
        exact ih
      · exact nofun
      · exact nofun

/-- Merging all waiting runs goes through a function. -/
lemma collapse_map {patience : Nat} {runs : List (Waiting α)} :
    collapse less patience (runs.map (Waiting.map f)) = List.map f <$> collapse (less.on f) patience runs := by
  fun_induction collapse (less.on f) patience runs with
  | case1 => simp [collapse]
  | case2 => simp [collapse, Waiting.map]
  | case3 patience last before =>
    simp only [List.map_cons, List.map_nil]
    rw [collapse]
    simp only [Waiting.map, merge_map, map_bind, bind_map_left]
    rfl
  | case4 patience last before first rest shorter ih =>
    simp only [List.map_cons]
    rw [collapse, map_bind]
    simp only [Waiting.map, List.length_map, if_pos shorter, merge_map, bind_map_left]
    refine bind_congr fun merged => ?_
    exact ih merged.1 merged.2
  | case5 patience last before first rest notShorter ih =>
    simp only [List.map_cons]
    rw [collapse, map_bind]
    simp only [Waiting.map, List.length_map, if_neg notShorter, merge_map, bind_map_left]
    refine bind_congr fun merged => ?_
    exact ih merged.1 merged.2

/-- Sorting goes through a function: what it makes of the items is sorted as they are. -/
theorem sort_map {xs : List α} : sort less (xs.map f) = List.map f <$> sort (less.on f) xs := by
  unfold sort
  simp only [List.length_map]
  rw [← List.map_nil (f := Waiting.map f), gather_map, bind_map_left, map_bind]
  refine bind_congr fun gathered => ?_
  exact collapse_map

end ActivityReport.Sorting
