import ActivityReport.Proofs.Sorting.Moves

/-!
# Sorting rearranges

A successful sort returns the items of its list, each as often as it was there, whatever the comparison
says. Every step is shown to rearrange what it works on: a run and the rest of the list, two runs that are
merged, the runs that wait. A merge is followed along its moves (`Merging.perm`, `Joining.perm`), and items are
counted: what is cut off and what is left are together what was there (`count_cut`).
-/

namespace ActivityReport.Sorting

variable {α ε : Type} {less : Less ε α}

/-- What is cut off from a list and what is left have together the items of the list. -/
lemma count_cut [DecidableEq α] (n : Nat) (xs : List α) (a : α) :
    (xs.take n).count a + (xs.drop n).count a = xs.count a := by
  rw [← List.count_append, List.take_append_drop]

/-! ## Runs -/

/-- A span of items and the rest are the list. -/
lemma append_spanRun {follows : α → α → Except ε Bool} {xs run rest : List α} {previous : α}
    (h : spanRun follows previous xs = .ok (run, rest)) : run ++ rest = xs := by
  induction xs generalizing previous run rest with
  | nil =>
    cases h
    rfl
  | cons x xs ih =>
    obtain ⟨does, -, h⟩ := bind_eq_ok.1 h
    split at h
    · obtain ⟨⟨run', rest'⟩, span, h⟩ := bind_eq_ok.1 h
      cases h
      rw [List.cons_append, ih span]
    · cases h
      rfl

/-- The run at the head of a list and the rest are the items of the list; the run is not empty. -/
lemma leadingRun_perm {x : α} {xs run rest : List α} (h : leadingRun less (x :: xs) = .ok (run, rest)) :
    (run ++ rest).Perm (x :: xs) ∧ run ≠ [] := by
  cases xs with
  | nil =>
    cases h
    exact ⟨List.Perm.refl _, by simp⟩
  | cons y xs =>
    obtain ⟨isLess, -, h⟩ := bind_eq_ok.1 h
    split at h
    · obtain ⟨⟨run', rest'⟩, span, h⟩ := bind_eq_ok.1 h
      cases h
      rw [← append_spanRun span]
      refine ⟨?_, by simp⟩
      exact (List.reverse_perm (x :: y :: run')).append_right rest
    · obtain ⟨⟨run', rest'⟩, span, h⟩ := bind_eq_ok.1 h
      cases h
      rw [← append_spanRun span]
      exact ⟨List.Perm.refl _, by simp⟩

/-- An item that is inserted is one item more. -/
lemma insertInto_perm {run out : List α} {x : α} (h : insertInto less run x = .ok out) : out.Perm (x :: run) := by
  obtain ⟨i, -, h⟩ := bind_eq_ok.1 h
  cases h
  have moved : (run.take i ++ x :: run.drop i).Perm (x :: (run.take i ++ run.drop i)) := List.perm_middle
  rwa [List.take_append_drop] at moved

/-- Items that are inserted one after the other are the more. -/
lemma foldlM_insertInto_perm {items run out : List α} (h : items.foldlM (insertInto less) run = .ok out) :
    out.Perm (run ++ items) := by
  induction items generalizing run with
  | nil =>
    cases h
    simp
  | cons x items ih =>
    rw [List.foldlM_cons] at h
    obtain ⟨run', inserted, h⟩ := bind_eq_ok.1 h
    have moved : (run ++ x :: items).Perm (x :: (run ++ items)) := List.perm_middle
    exact (ih h).trans (((insertInto_perm inserted).append_right items).trans moved.symm)

/-- The next run and the rest are the items of the list, and the rest is shorter. -/
lemma nextRun_perm {size : Nat} {x : α} {xs run rest : List α} (h : nextRun less size (x :: xs) = .ok (run, rest)) :
    (run ++ rest).Perm (x :: xs) ∧ rest.length < (x :: xs).length := by
  obtain ⟨⟨lead, others⟩, leading, h⟩ := bind_eq_ok.1 h
  obtain ⟨filled, inserted, h⟩ := bind_eq_ok.1 h
  cases h
  obtain ⟨perm, ne⟩ := leadingRun_perm leading
  have whole := (foldlM_insertInto_perm inserted).append_right (others.drop (size - lead.length))
  rw [List.append_assoc, List.take_append_drop] at whole
  refine ⟨whole.trans perm, ?_⟩
  have length := perm.length_eq
  have some := List.length_pos_iff.2 ne
  rw [List.length_append] at length
  rw [List.length_drop]
  omega

/-! ## Merges -/

/-- Merging two runs rearranges them. -/
lemma Merging.perm {between : List α → α → List α → Prop} {left right tail : List α}
    (h : Merging between left right tail) : tail.Perm (left ++ right) := by
  classical
  rw [List.perm_iff_count]
  intro a
  induction h with
  | noLeft => rfl
  | noRight => rw [List.append_nil]
  | lastLeft => simp only [List.count_append, Nat.add_comm]
  | @passLeft left y right tail n _ _ ih =>
    have cut := count_cut n left a
    simp only [List.count_append, List.count_cons] at ih ⊢
    omega
  | @passRight x left right tail n _ _ ih =>
    have cut := count_cut n right a
    simp only [List.count_append, List.count_cons] at ih ⊢
    omega

/-- A run that joins another brings its items. -/
lemma Joining.perm {left right out : List α} (h : Joining less left right out) : out.Perm (left ++ right) := by
  classical
  rw [List.perm_iff_count]
  intro a
  cases h with
  | noLeft => rfl
  | noRight => rw [List.append_nil]
  | afterLeft => rfl
  | beforeRight => rfl
  | fromFront _ _ merging =>
    have found := merging.perm.count_eq a
    simp only [List.count_append, List.count_cons] at found ⊢
    omega
  | fromBack _ _ merging =>
    have found := merging.perm.count_eq a
    simp only [List.count_append, List.count_cons, List.count_reverse, List.count_nil] at found ⊢
    omega

lemma merge_perm {patience patience' : Nat} {left right out : List α}
    (h : merge less patience left right = .ok (out, patience')) : out.Perm (left ++ right) :=
  (merge_joining h).perm

/-! ## Waiting runs -/

/-- Runs that wait are merged into the items that they have. -/
lemma settle_perm {power patience patience' : Nat} {runs settled : List (Waiting α)}
    (h : settle less power patience runs = .ok (settled, patience')) :
    (settled.flatMap Waiting.items).Perm (runs.flatMap Waiting.items) := by
  fun_induction settle less power patience runs with
  | case1 patience last before rest above ih =>
    obtain ⟨⟨items, patience'⟩, merged, h⟩ := bind_eq_ok.1 h
    refine (ih items patience' h).trans ?_
    simp only [List.flatMap_cons]
    rw [← List.append_assoc]
    exact ((merge_perm merged).trans List.perm_append_comm).append_right _
  | case2 =>
    cases h
    rfl
  | case3 =>
    cases h
    rfl

/-- One more run that waits brings its items. -/
lemma push_perm {n start patience patience' : Nat} {items : List α} {runs pushed : List (Waiting α)}
    (h : push less n start patience items runs = .ok (pushed, patience')) :
    (pushed.flatMap Waiting.items).Perm (items ++ runs.flatMap Waiting.items) := by
  cases runs with
  | nil =>
    cases h
    rfl
  | cons last rest =>
    obtain ⟨⟨settled, patience'⟩, isSettled, h⟩ := bind_eq_ok.1 h
    have perm := settle_perm isSettled
    cases settled with
    | nil =>
      cases h
      exact perm.append_left items
    | cons last' rest' =>
      cases h
      exact perm.append_left items

/-- All items of a list get into runs that wait. -/
lemma gather_perm {size n fuel patience patience' : Nat} {runs gathered : List (Waiting α)} {xs : List α}
    (enough : xs.length ≤ fuel) (h : gather less size n fuel patience runs xs = .ok (gathered, patience')) :
    (gathered.flatMap Waiting.items).Perm (runs.flatMap Waiting.items ++ xs) := by
  induction fuel generalizing patience runs xs with
  | zero =>
    cases List.length_eq_zero_iff.1 (Nat.le_zero.1 enough)
    cases h
    simp
  | succ fuel ih =>
    cases xs with
    | nil =>
      cases h
      simp
    | cons x xs =>
      obtain ⟨⟨items, rest⟩, next, h⟩ := bind_eq_ok.1 h
      obtain ⟨⟨pushed, patience'⟩, isPushed, h⟩ := bind_eq_ok.1 h
      obtain ⟨perm, shorter⟩ := nextRun_perm next
      refine (ih (by simp only [List.length_cons] at *; omega) h).trans ?_
      refine ((push_perm isPushed).append_right rest).trans ?_
      refine (List.perm_append_comm.append_right rest).trans ?_
      rw [List.append_assoc]
      exact perm.append_left _

/-- Runs that wait are merged into one. -/
lemma collapse_perm {patience : Nat} {runs : List (Waiting α)} {out : List α}
    (h : collapse less patience runs = .ok out) : out.Perm (runs.flatMap Waiting.items) := by
  fun_induction collapse less patience runs with
  | case1 =>
    cases h
    rfl
  | case2 =>
    cases h
    simp
  | case3 patience last before =>
    obtain ⟨⟨items, _⟩, merged, h⟩ := bind_eq_ok.1 h
    cases h
    simpa using (merge_perm merged).trans List.perm_append_comm
  | case4 patience last before first rest shorter ih =>
    obtain ⟨⟨items, patience'⟩, merged, h⟩ := bind_eq_ok.1 h
    refine (ih items patience' h).trans ?_
    simp only [List.flatMap_cons]
    refine List.Perm.append_left _ ?_
    rw [← List.append_assoc]
    exact ((merge_perm merged).trans List.perm_append_comm).append_right _
  | case5 patience last before first rest notShorter ih =>
    obtain ⟨⟨items, patience'⟩, merged, h⟩ := bind_eq_ok.1 h
    refine (ih items patience' h).trans ?_
    simp only [List.flatMap_cons]
    rw [← List.append_assoc (Waiting.items last)]
    exact ((merge_perm merged).trans List.perm_append_comm).append_right _

/-- A list that is sorted has the items that it had. -/
theorem sort_perm {xs out : List α} (h : sort less xs = .ok out) : out.Perm xs := by
  obtain ⟨⟨runs, patience⟩, gathered, h⟩ := bind_eq_ok.1 h
  simpa using (collapse_perm h).trans (gather_perm (Nat.le_refl _) gathered)

end ActivityReport.Sorting
