import ActivityReport.Proofs.Sorting.Naturality

/-!
# Sorting fails as comparisons do

A sort has no failure of its own: it fails only as the comparison of two of its items does
(`exists_of_sort_eq_error`). Every step is shown to fail in no other way than comparisons, along the recursion of
the step; which items are compared is then read off from sorting the items with the proof that they are listed.
-/

namespace ActivityReport.Sorting

variable {α ε : Type} {less : Less ε α} {P : ε → Prop}

/-! ## Searches -/

lemma failsAs_testAt {test : α → Except ε Bool} (own : ∀ a, FailsAs P (test a)) (items : Array α) (i : Nat) :
    FailsAs P (testAt test items i) := by
  unfold testAt
  cases items[i]? with
  | none => exact .ok false
  | some a => exact own a

lemma failsAs_bisect {test : Nat → Except ε Bool} (own : ∀ i, FailsAs P (test i)) (low high : Nat) :
    FailsAs P (bisect test low high) := by
  fun_induction bisect test low high with
  | case1 low high _ middle ihRight ihLeft =>
    refine (own middle).bind fun holds => ?_
    split
    · exact ihRight
    · exact ihLeft
  | case2 low high => exact .ok low

lemma failsAs_stride {test : Nat → Except ε Bool} (own : ∀ i, FailsAs P (test i)) (limit last next : Nat) :
    FailsAs P (stride test limit last next) := by
  fun_induction stride test limit last next with
  | case1 last next _ ih =>
    refine (own next).bind fun holds => ?_
    split
    · exact ih
    · exact .ok _
  | case2 last next => exact .ok _

section

variable (own : ∀ a b, FailsAs P (less a b))

include own

lemma failsAs_placeBefore (x : α) (items : Array α) (hint : Nat) : FailsAs P (placeBefore less x items hint) := by
  have below : ∀ i, FailsAs P (testAt (less · x) items i) := failsAs_testAt (fun a => own a x) items
  refine (below hint).bind fun holds => ?_
  split
  · refine (failsAs_stride (fun step => below _) _ _ _).bind fun steps => ?_
    exact failsAs_bisect below _ _
  · refine (failsAs_stride (fun step => (below _).map _) _ _ _).bind fun steps => ?_
    exact failsAs_bisect below _ _

lemma failsAs_placeAfter (x : α) (items : Array α) (hint : Nat) : FailsAs P (placeAfter less x items hint) := by
  have above : ∀ i, FailsAs P (testAt (less x) items i) := failsAs_testAt (own x) items
  have notAbove : ∀ i, FailsAs P ((! ·) <$> testAt (less x) items i) := fun i => (above i).map _
  refine (above hint).bind fun holds => ?_
  split
  · refine (failsAs_stride (fun step => above _) _ _ _).bind fun steps => ?_
    exact failsAs_bisect notAbove _ _
  · refine (failsAs_stride (fun step => notAbove _) _ _ _).bind fun steps => ?_
    exact failsAs_bisect notAbove _ _

/-! ## Merges -/

lemma failsAs_mergeFront (gait : Gait) (patience : Nat) (merged left right : List α) :
    FailsAs P (mergeFront less gait patience merged left right) := by
  fun_induction mergeFront less gait patience merged left right with
  | case1 => exact .ok _
  | case2 => exact .ok _
  | case3 => exact .ok _
  | case4 patience merged x x' left y right l r ihRight ihLeft =>
    refine (own y x).bind fun isLess => ?_
    split
    · exact ihRight
    · exact ihLeft
  | case5 patience merged x x' left y right first patience' whole ih =>
    refine (failsAs_placeAfter own y _ _).bind fun l => ?_
    dsimp only
    split
    · exact .ok _
    · exact .ok _
    · rename_i z z' left' rest
      split
      · exact .ok _
      · refine (failsAs_placeBefore own z _ _).bind fun r => ?_
        split
        · exact .ok _
        · split
          · exact .ok _
          · exact ih l z z' left' rest r _ _

lemma failsAs_mergeBack (gait : Gait) (patience : Nat) (left right merged : List α) :
    FailsAs P (mergeBack less gait patience left right merged) := by
  fun_induction mergeBack less gait patience left right merged with
  | case1 => exact .ok _
  | case2 => exact .ok _
  | case3 => exact .ok _
  | case4 patience merged x left y y' right l r ihLeft ihRight =>
    refine (own y x).bind fun isLess => ?_
    split
    · exact ihLeft
    · exact ihRight
  | case5 patience merged x left y y' right first patience' whole ih =>
    refine (failsAs_placeAfter own y _ _).bind fun place => ?_
    dsimp only
    split
    · exact .ok _
    · rename_i z left' rest
      split
      · exact .ok _
      · refine (failsAs_placeBefore own z _ _).bind fun place' => ?_
        split
        · exact .ok _
        · exact .ok _
        · rename_i w w' right' rest'
          split
          · exact .ok _
          · exact ih place z left' rest place' w w' right' rest' _ _

lemma failsAs_merge (patience : Nat) (left right : List α) : FailsAs P (merge less patience left right) := by
  cases right with
  | nil => exact .ok _
  | cons first right =>
    refine (failsAs_placeAfter own first _ _).bind fun fixed => ?_
    dsimp only
    split
    · exact .ok _
    · rename_i last isLast
      refine (failsAs_placeBefore own last _ _).bind fun reach => ?_
      split
      · exact .ok _
      · split
        · exact (failsAs_mergeFront own _ _ _ _ _).bind fun merged => .ok _
        · exact (failsAs_mergeBack own _ _ _ _ _).bind fun merged => .ok _

/-! ## Runs -/

lemma failsAs_spanRun (previous : α) (xs : List α) : FailsAs P (spanRun less previous xs) := by
  induction xs generalizing previous with
  | nil => exact .ok _
  | cons x xs ih =>
    refine (own previous x).bind fun does => ?_
    split
    · exact (ih x).bind fun span => .ok _
    · exact .ok _

lemma failsAs_leadingRun (xs : List α) : FailsAs P (leadingRun less xs) := by
  rcases xs with _ | ⟨x, _ | ⟨y, rest⟩⟩
  · exact .ok _
  · exact .ok _
  · refine (own y x).bind fun isLess => ?_
    split
    · exact (failsAs_spanRun (fun a b => own b a) y rest).bind fun span => .ok _
    · exact (failsAs_spanRun (fun a b => (own b a).map _) y rest).bind fun span => .ok _

lemma failsAs_insertInto (run : List α) (x : α) : FailsAs P (insertInto less run x) := by
  refine (failsAs_bisect (fun i => ?_) _ _).bind fun i => .ok _
  exact failsAs_testAt (fun y => (own x y).map _) _ i

lemma failsAs_nextRun (size : Nat) (xs : List α) : FailsAs P (nextRun less size xs) := by
  refine (failsAs_leadingRun own xs).bind fun leading => ?_
  refine FailsAs.bind ?_ fun filled => .ok _
  exact .foldlM (failsAs_insertInto own) _ _

/-! ## Waiting runs -/

lemma failsAs_settle (power patience : Nat) (runs : List (Waiting α)) :
    FailsAs P (settle less power patience runs) := by
  fun_induction settle less power patience runs with
  | case1 patience last before rest above ih =>
    exact (failsAs_merge own patience before.items last.items).bind fun merged => ih merged.1 merged.2
  | case2 => exact .ok _
  | case3 => exact .ok _

lemma failsAs_push (n start patience : Nat) (items : List α) (runs : List (Waiting α)) :
    FailsAs P (push less n start patience items runs) := by
  cases runs with
  | nil => exact .ok _
  | cons last rest =>
    refine (failsAs_settle own _ patience (last :: rest)).bind fun settled => ?_
    obtain ⟨_ | ⟨last, rest⟩, patience⟩ := settled
    · exact .ok _
    · exact .ok _

lemma failsAs_gather (size n fuel patience : Nat) (runs : List (Waiting α)) (xs : List α) :
    FailsAs P (gather less size n fuel patience runs xs) := by
  induction fuel generalizing patience runs xs with
  | zero => exact .ok _
  | succ fuel ih =>
    cases xs with
    | nil => exact .ok _
    | cons x xs =>
      refine (failsAs_nextRun own size (x :: xs)).bind fun next => ?_
      refine (failsAs_push own _ _ _ _ _).bind fun pushed => ?_
      exact ih pushed.2 pushed.1 next.2

lemma failsAs_collapse (patience : Nat) (runs : List (Waiting α)) : FailsAs P (collapse less patience runs) := by
  fun_induction collapse less patience runs with
  | case1 => exact .ok _
  | case2 => exact .ok _
  | case3 patience last before => exact (failsAs_merge own _ _ _).bind fun merged => .ok _
  | case4 patience last before first rest shorter ih =>
    exact (failsAs_merge own _ _ _).bind fun merged => ih merged.1 merged.2
  | case5 patience last before first rest notShorter ih =>
    exact (failsAs_merge own _ _ _).bind fun merged => ih merged.1 merged.2

lemma failsAs_sort (xs : List α) : FailsAs P (sort less xs) := by
  refine (failsAs_gather own _ _ _ _ _ _).bind fun gathered => ?_
  exact failsAs_collapse own gathered.2 gathered.1

end

/-- Sorting a list fails only as the comparison of two of its items does. -/
theorem exists_of_sort_eq_error {xs : List α} {e : ε} (h : sort less xs = .error e) :
    ∃ a ∈ xs, ∃ b ∈ xs, less a b = .error e := by
  have listed : sort less (xs.attach.map Subtype.val) = .error e := by
    rw [List.attach_map_subtype_val]
    exact h
  rw [sort_map, map_eq_error] at listed
  have compared : FailsAs (fun e => ∃ a b : {a // a ∈ xs}, less.on Subtype.val a b = .error e)
      (sort (less.on Subtype.val) xs.attach) := failsAs_sort (fun a b e failed => ⟨a, b, failed⟩) _
  obtain ⟨a, b, failed⟩ := compared e listed
  exact ⟨a, a.2, b, b.2, failed⟩

end ActivityReport.Sorting
