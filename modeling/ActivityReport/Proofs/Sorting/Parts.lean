import ActivityReport.Proofs.Sorting.Naturality

/-!
# Sorting keeps parts apart

Whatever else a comparison says, where it puts all other items before those of a last part, a sorted list ends with that
part (`sort_isParted`): the comparison need not be transitive nor total within the parts. A search for the place of an
item ends within the part of the item or at its border (`placeBefore_parts`, `placeAfter_parts`), so each merge of two
lists that end with the part ends with it, and so does each run.
-/

namespace ActivityReport.Sorting

variable {α ε : Type} {less : Less ε α} {late : α → Prop}

/-! ## Lists that end with a part -/

/-- Whether nothing of a last part stands before anything else. -/
def IsParted (late : α → Prop) (xs : List α) : Prop := xs.Pairwise fun a b => late a → late b

/-- Whether a comparison puts everything else before a last part. -/
def Less.Parts (less : Less ε α) (late : α → Prop) : Prop :=
  ∀ a b, ¬ late a → late b → less a b = .ok true ∧ less b a = .ok false

/-- A parted list has a front without anything of the last part, and a back of nothing else. -/
lemma IsParted.exists_append {xs : List α} (h : IsParted late xs) :
    ∃ front back, xs = front ++ back ∧ (∀ a ∈ front, ¬ late a) ∧ ∀ b ∈ back, late b := by
  induction xs with
  | nil => exact ⟨[], [], rfl, nofun, nofun⟩
  | cons x xs ih =>
    obtain ⟨first, rest⟩ := List.pairwise_cons.1 h
    by_cases isLate : late x
    · exact ⟨[], x :: xs, rfl, nofun, List.forall_mem_cons.2 ⟨isLate, fun b listed => first b listed isLate⟩⟩
    · obtain ⟨front, back, rfl, early, lates⟩ := ih rest
      exact ⟨x :: front, back, rfl, List.forall_mem_cons.2 ⟨isLate, early⟩, lates⟩

namespace Less.Parts

variable {a b : α} (parts : less.Parts late)

include parts

/-- What is less than something of the other part is not of the last one. -/
lemma late_of_less (h : less a b = .ok true) (isLate : late a) : late b := by
  by_contra early
  cases h.symm.trans (parts b a early isLate).2

lemma late_of_not_less (h : less b a = .ok false) (isLate : late a) : late b := by
  by_contra early
  cases h.symm.trans (parts b a early isLate).1

end Less.Parts

/-! ## Searches -/

section

variable {test : Nat → Except ε Bool} {border low high last next limit hint size k : Nat}

/-- Halving does not end before a border up to which the test holds. -/
lemma le_of_bisect (holds : ∀ i, low ≤ i → i < border → test i = .ok true) (within : border ≤ high)
    (h : bisect test low high = .ok k) : border ≤ k := by
  fun_induction bisect test low high with
  | case1 low high less middle ihRight ihLeft =>
    obtain ⟨result, tested, h⟩ := bind_eq_ok.1 h
    cases result with
    | true => exact ihRight (fun i le => holds i (by omega)) within h
    | false =>
      refine ihLeft holds ?_ h
      by_contra before
      cases tested.symm.trans (holds middle (by omega) (by omega))
  | case2 low high =>
    cases h
    omega

/-- Halving does not end after a border from which on the test does not hold. -/
lemma bisect_le (fails : ∀ i, border ≤ i → i < high → test i = .ok false) (within : low ≤ border)
    (h : bisect test low high = .ok k) : k ≤ border := by
  fun_induction bisect test low high with
  | case1 low high less middle ihRight ihLeft =>
    obtain ⟨result, tested, h⟩ := bind_eq_ok.1 h
    cases result with
    | true =>
      refine ihRight fails ?_ h
      by_contra after
      cases tested.symm.trans (fails middle (by omega) (by omega))
    | false => exact ihLeft (fun i le less => fails i le (by omega)) within h
  | case2 low high =>
    cases h
    exact within

/-- Steps that double end with a last one at which the test holds and a next one at which it does not, within the
limit. -/
lemma stride_bounds {first second : Nat} (h : stride test limit first second = .ok (last, next)) :
    (last = first ∨ last < limit ∧ test last = .ok true) ∧ (next = limit ∨ next < limit ∧ test next = .ok false) := by
  fun_induction stride test limit first second with
  | case1 first second less ih =>
    obtain ⟨result, tested, h⟩ := bind_eq_ok.1 h
    cases result with
    | true =>
      obtain ⟨rfl | held, ends⟩ := ih h
      · exact ⟨Or.inr ⟨less, tested⟩, ends⟩
      · exact ⟨Or.inr held, ends⟩
    | false =>
      cases h
      exact ⟨Or.inl rfl, Or.inr ⟨less, tested⟩⟩
  | case2 =>
    cases h
    exact ⟨Or.inl rfl, Or.inl rfl⟩

/-- A search that goes forward ends at a border between places where the test holds and places where it does not. -/
lemma forward_bounds (start : test hint = .ok true) (inside : hint < size) (within : border ≤ size)
    (strode : stride (fun step => test (hint + step)) (size - hint) 0 1 = .ok (last, next))
    (h : bisect test (hint + last + 1) (hint + next) = .ok k) :
    ((∀ i, i < border → test i = .ok true) → border ≤ k) ∧
      ((∀ i, border ≤ i → i < size → test i = .ok false) → k ≤ border) := by
  obtain ⟨held, ended⟩ := stride_bounds strode
  constructor
  · intro holds
    refine le_of_bisect (fun i _ => holds i) ?_ h
    rcases ended with rfl | ⟨-, failed⟩
    · omega
    · by_contra before
      cases failed.symm.trans (holds _ (by omega))
  · intro fails
    have before : ∀ i, i < size → test i = .ok true → i < border := by
      intro i less held
      by_contra after
      cases held.symm.trans (fails i (by omega) less)
    have first := before hint inside start
    refine bisect_le (fun i le less => fails i le ?_) ?_ h
    · rcases ended with rfl | ⟨less', -⟩ <;> omega
    · rcases held with rfl | ⟨less, held⟩
      · omega
      · have := before _ (by omega) held
        omega

/-- A search that goes backward ends at a border between places where the test holds and places where it does not. -/
lemma backward_bounds (start : test hint = .ok false) (inside : hint < size)
    (strode : stride (fun step => (! ·) <$> test (hint - step)) (hint + 1) 0 1 = .ok (last, next))
    (h : bisect test (hint + 1 - next) (hint - last) = .ok k) :
    ((∀ i, i < border → test i = .ok true) → border ≤ k) ∧
      ((∀ i, border ≤ i → i < size → test i = .ok false) → k ≤ border) := by
  have negated : ∀ {i b}, (! ·) <$> test i = .ok b → test i = .ok (!b) := by
    intro i b h
    obtain ⟨b', tested, rfl⟩ := map_eq_ok.1 h
    rw [tested, Bool.not_not]
  obtain ⟨held, ended⟩ := stride_bounds strode
  constructor
  · intro holds
    refine le_of_bisect (fun i _ => holds i) ?_ h
    have after : ∀ i, test i = .ok false → border ≤ i := by
      intro i failed
      by_contra before
      cases failed.symm.trans (holds i (by omega))
    rcases held with rfl | ⟨-, failed⟩
    · exact after _ start
    · exact after _ (negated failed)
  · intro fails
    refine bisect_le (fun i le less => fails i le (by omega)) ?_ h
    rcases ended with rfl | ⟨less, held⟩
    · omega
    · by_contra after
      cases (negated held).symm.trans (fails _ (by omega) (by omega))

end

/-- At a place in a list the item there is tested. -/
lemma testAt_toArray {test : α → Except ε Bool} {items : List α} {i : Nat} {a : α} (found : items[i]? = some a) :
    testAt test items.toArray i = test a := by
  rw [testAt, List.getElem?_toArray, found]

section

variable {x : α} {items : List α} {hint k : Nat}

/-- Where a search ends that comes to the border of the parts: for an item of the last part only that part is left after
its place, and something of the last part stands before its place only for such an item. -/
lemma ends_of_bounds (parted : IsParted late items) {test : Nat → Except ε Bool}
    (holds : late x → ∀ i a, items[i]? = some a → ¬ late a → test i = .ok true)
    (fails : ¬ late x → ∀ i a, items[i]? = some a → late a → test i = .ok false)
    (bounds : ∀ border, border ≤ items.length → ((∀ i, i < border → test i = .ok true) → border ≤ k) ∧
      ((∀ i, border ≤ i → i < items.length → test i = .ok false) → k ≤ border)) :
    (late x → ∀ a ∈ items.drop k, late a) ∧ ∀ a ∈ items.take k, late a → late x := by
  obtain ⟨front, back, rfl, early, lates⟩ := parted.exists_append
  obtain ⟨ge, le⟩ := bounds front.length (by rw [List.length_append]; omega)
  constructor
  · intro isLate a listed
    have passed : front.length ≤ k := by
      refine ge fun i less => holds isLate i front[i] ?_ (early _ (List.getElem_mem less))
      rw [List.getElem?_append_left less, List.getElem?_eq_getElem less]
    rw [List.drop_append, List.drop_eq_nil_of_le passed, List.nil_append] at listed
    exact lates a (List.mem_of_mem_drop listed)
  · intro a listed isLate
    by_contra isEarly
    have passed : k ≤ front.length := by
      refine le fun i after less => ?_
      have within : i - front.length < back.length := by
        rw [List.length_append] at less
        omega
      refine fails isEarly i back[i - front.length] ?_ (lates _ (List.getElem_mem within))
      rw [List.getElem?_append_right after, List.getElem?_eq_getElem within]
    rw [List.take_append_of_le_length passed] at listed
    exact early a (List.mem_of_mem_take listed) isLate

/-- The place before the items that are not less lies within the part of the item or at its border. -/
lemma placeBefore_parts (parts : less.Parts late) (parted : IsParted late items) (inside : hint < items.length)
    (h : placeBefore less x items.toArray hint = .ok k) :
    (late x → ∀ a ∈ items.drop k, late a) ∧ ∀ a ∈ items.take k, late a → late x := by
  refine ends_of_bounds parted
    (fun isLate i a found early => (testAt_toArray found).trans (parts a x early isLate).1)
    (fun early i a found isLate => (testAt_toArray found).trans (parts x a early isLate).2) fun border within => ?_
  obtain ⟨isBelow, start, h⟩ := bind_eq_ok.1 h
  cases isBelow with
  | true =>
    obtain ⟨⟨last, next⟩, strode, h⟩ := bind_eq_ok.1 h
    exact forward_bounds start inside within strode h
  | false =>
    obtain ⟨⟨last, next⟩, strode, h⟩ := bind_eq_ok.1 h
    exact backward_bounds start inside strode h

/-- The place after the items that an item is not less than lies within the part of the item or at its border. -/
lemma placeAfter_parts (parts : less.Parts late) (parted : IsParted late items) (inside : hint < items.length)
    (h : placeAfter less x items.toArray hint = .ok k) :
    (late x → ∀ a ∈ items.drop k, late a) ∧ ∀ a ∈ items.take k, late a → late x := by
  have tests : ∀ i a b, items[i]? = some a → less x a = .ok b →
      (! ·) <$> testAt (less x) items.toArray i = .ok (!b) := by
    intro i a b found compared
    rw [testAt_toArray found, compared]
    rfl
  refine ends_of_bounds parted (fun isLate i a found early => tests i a _ found (parts a x early isLate).2)
    (fun early i a found isLate => tests i a _ found (parts x a early isLate).1) fun border within => ?_
  obtain ⟨isAbove, start, h⟩ := bind_eq_ok.1 h
  have start' : (! ·) <$> testAt (less x) items.toArray hint = .ok (!isAbove) := congrArg ((! ·) <$> ·) start
  cases isAbove with
  | true =>
    obtain ⟨⟨last, next⟩, strode, h⟩ := bind_eq_ok.1 h
    have twice : (fun step => testAt (less x) items.toArray (hint - step)) =
        fun step => (! ·) <$> (! ·) <$> testAt (less x) items.toArray (hint - step) := by
      funext step
      cases testAt (less x) items.toArray (hint - step) with
      | error e => rfl
      | ok b => exact congrArg Except.ok (Bool.not_not b).symm
    rw [twice] at strode
    exact backward_bounds start' inside strode h
  | false =>
    obtain ⟨⟨last, next⟩, strode, h⟩ := bind_eq_ok.1 h
    exact forward_bounds start' inside within strode h

end

/-! ## Merges -/

/-- Two parted lists make one when the second has nothing but the last part as soon as the first comes to it. -/
lemma IsParted.append {xs ys : List α} (first : IsParted late xs) (second : IsParted late ys)
    (before : ∀ a ∈ xs, late a → ∀ b ∈ ys, late b) : IsParted late (xs ++ ys) :=
  List.pairwise_append.2 ⟨first, second, fun a listed b listed' isLate => before a listed isLate b listed'⟩

/-- Two parted lists and an item between them make one. -/
lemma IsParted.through {xs ys : List α} {x : α} (first : IsParted late xs) (second : IsParted late ys)
    (before : ∀ a ∈ xs, late a → late x) (after : late x → ∀ b ∈ ys, late b) : IsParted late (xs ++ x :: ys) := by
  refine first.append (List.pairwise_cons.2 ⟨fun b listed isLate => after isLate b listed, second⟩) ?_
  exact fun a listed isLate => List.forall_mem_cons.2 ⟨before a listed isLate, after (before a listed isLate)⟩

lemma IsParted.concat {xs : List α} {x : α} (h : IsParted late xs) (before : ∀ a ∈ xs, late a → late x) :
    IsParted late (xs ++ [x]) :=
  h.through .nil before fun _ => List.forall_mem_nil late

/-- What is late in a parted list is followed by nothing else. -/
lemma IsParted.of_head {x : α} {xs : List α} (h : IsParted late (x :: xs)) (isLate : late x) :
    ∀ b ∈ x :: xs, late b :=
  List.forall_mem_cons.2 ⟨isLate, fun b listed => (List.pairwise_cons.1 h).1 b listed isLate⟩

/-- The two ends of a parted list are parted; when the first comes to the last part, the second has nothing else. -/
lemma IsParted.of_append {xs ys : List α} (h : IsParted late (xs ++ ys)) :
    IsParted late xs ∧ IsParted late ys ∧ ∀ a ∈ xs, late a → ∀ b ∈ ys, late b := by
  obtain ⟨first, second, before⟩ := List.pairwise_append.1 h
  exact ⟨first, second, fun a listed isLate b listed' => before a listed b listed' isLate⟩

lemma IsParted.of_cut {xs : List α} (h : IsParted late xs) (n : Nat) :
    IsParted late (xs.take n) ∧ IsParted late (xs.drop n) ∧ ∀ a ∈ xs.take n, late a → ∀ b ∈ xs.drop n, late b :=
  IsParted.of_append (by rwa [List.take_append_drop])

/-- Of a parted list nothing is of the last part unless the last item is. -/
lemma IsParted.of_getLast? {xs : List α} (h : IsParted late xs) {last : α} (isLast : xs.getLast? = some last) :
    ∀ a ∈ xs, late a → late last := by
  obtain ⟨rest, rfl⟩ := List.getLast?_eq_some_iff.1 isLast
  obtain ⟨-, -, before⟩ := h.of_append
  intro a listed isLate
  rcases List.mem_append.1 listed with inRest | own
  · exact before a inRest isLate last (List.mem_singleton_self last)
  · exact List.mem_singleton.1 own ▸ isLate

/-- Turned round, a parted list ends with all that is not of the last part. -/
lemma isParted_reverse {xs : List α} : IsParted late xs.reverse ↔ IsParted (fun a => ¬ late a) xs := by
  rw [IsParted, IsParted, List.pairwise_reverse]
  exact List.Pairwise.iff fun a b => not_imp_not.symm

/-- The place of an item in a parted list lies within the part of the item or at its border. -/
lemma Placed.parts (parts : less.Parts late) {before after : List α} {x : α} (placed : Placed less before x after)
    (parted : IsParted late (before ++ after)) :
    (late x → ∀ b ∈ after, late b) ∧ ∀ a ∈ before, late a → late x := by
  cases placed with
  | @ahead _ y run isHead compared =>
    refine ⟨fun isLate => ?_, List.forall_mem_nil _⟩
    obtain ⟨rest, rfl⟩ := List.head?_eq_some_iff.1 isHead
    exact parted.of_head (compared.elim (parts.late_of_less · isLate) (parts.late_of_not_less · isLate))
  | behind isLast compared =>
    rw [List.append_nil] at parted
    refine ⟨fun _ => List.forall_mem_nil _, fun a listed isLate => ?_⟩
    have lastLate := parted.of_getLast? isLast a listed isLate
    exact compared.elim (parts.late_of_less · lastLate) (parts.late_of_not_less · lastLate)
  | before inside found =>
    rw [List.take_append_drop] at parted
    exact placeBefore_parts parts parted inside found
  | after inside found =>
    rw [List.take_append_drop] at parted
    exact placeAfter_parts parts parted inside found

lemma PlacedBack.parts (parts : less.Parts late) {before after : List α} {x : α} (placed : PlacedBack less before x after)
    (parted : IsParted (fun a => ¬ late a) (before ++ after)) :
    (¬ late x → ∀ b ∈ after, ¬ late b) ∧ ∀ a ∈ before, ¬ late a → ¬ late x := by
  obtain ⟨later, earlier⟩ := Placed.parts parts placed (by rwa [← List.reverse_append, isParted_reverse])
  constructor
  · exact fun isEarly b listed isLate => isEarly (earlier b (List.mem_reverse.2 listed) isLate)
  · exact fun a listed isEarly isLate => isEarly (later isLate a (List.mem_reverse.2 listed))

/-- What is left of a list ends as the list does. -/
lemma mem_getLast?_of_drop {xs : List α} {n : Nat} {z : α} (h : z ∈ (xs.drop n).getLast?) : z ∈ xs.getLast? := by
  rw [List.getLast?_drop] at h
  split at h
  · cases h
  · exact h

/-- Two parted lists are merged into a parted one, where places lie within the parts, when nothing is of the last part
unless the last item of the left list is. -/
lemma Merging.isParted {between : List α → α → List α → Prop} {left right tail : List α}
    (within : ∀ {before x after}, between before x after → IsParted late (before ++ after) →
      (late x → ∀ b ∈ after, late b) ∧ ∀ a ∈ before, late a → late x)
    (h : Merging between left right tail) (leftParted : IsParted late left) (rightParted : IsParted late right)
    (last : ∀ z ∈ left.getLast?, ∀ b ∈ right, late b → late z) : IsParted late tail := by
  induction h with
  | noLeft => exact rightParted
  | noRight => exact leftParted
  | lastLeft => exact rightParted.concat (last _ rfl)
  | @passLeft left y right tail n placed merging ih =>
    -- what a step puts down stands before `x` or `y`; if that is late, so is all that is still to come
    obtain ⟨after, before⟩ := within placed (by rwa [List.take_append_drop])
    obtain ⟨taken, rest, -⟩ := leftParted.of_cut n
    obtain ⟨first, rightRest⟩ := List.pairwise_cons.1 rightParted
    have others : late y → ∀ b ∈ tail, late b := by
      intro isLate b listed
      rcases List.mem_append.1 (merging.perm.subset listed) with inLeft | inRight
      · exact after isLate b inLeft
      · exact first b inRight isLate
    refine taken.through (ih rest rightRest fun z isLast b listed => ?_) before others
    exact last z (mem_getLast?_of_drop isLast) b (List.mem_cons_of_mem _ listed)
  | @passRight x left right tail n placed merging ih =>
    obtain ⟨after, before⟩ := within placed (by rwa [List.take_append_drop])
    obtain ⟨taken, rest, -⟩ := rightParted.of_cut n
    obtain ⟨first, leftRest⟩ := List.pairwise_cons.1 leftParted
    have others : late x → ∀ b ∈ tail, late b := by
      intro isLate b listed
      rcases List.mem_append.1 (merging.perm.subset listed) with inLeft | inRight
      · exact first b inLeft isLate
      · exact after isLate b inRight
    refine taken.through (ih leftRest rest fun z isLast b listed => ?_) before others
    exact last z (mem_getLast?_of_drop (n := 1) isLast) b (List.mem_of_mem_drop listed)

/-- What is merged of two parted lists stands between what stays of them. -/
lemma IsParted.join {fixed moving reached beyond middle : List α} {x y : α}
    (leftParted : IsParted late (fixed ++ (moving ++ [x]))) (rightParted : IsParted late (y :: (reached ++ beyond)))
    (stays : ∀ a ∈ fixed, late a → late y) (moves : late y → ∀ b ∈ moving ++ [x], late b)
    (follows : late x → ∀ b ∈ beyond, late b) (parted : IsParted late middle)
    (members : ∀ b ∈ middle, b ∈ moving ++ [x] ∨ b ∈ y :: reached) : IsParted late (fixed ++ (middle ++ beyond)) := by
  obtain ⟨fixedParted, movingParted, -⟩ := leftParted.of_append
  have rightParted' : IsParted late ((y :: reached) ++ beyond) := rightParted
  obtain ⟨-, beyondParted, apart⟩ := rightParted'.of_append
  have beyondLater : ∀ a ∈ middle, late a → ∀ b ∈ beyond, late b := by
    intro a listed isLate
    rcases members a listed with inLeft | inRight
    · exact follows (movingParted.of_getLast? List.getLast?_concat a inLeft isLate)
    · exact apart a inRight isLate
  refine fixedParted.append (parted.append beyondParted beyondLater) fun a listed isLate b listed' => ?_
  have yLate := stays a listed isLate
  have rightLate := rightParted.of_head yLate
  rcases List.mem_append.1 listed' with inMiddle | isBeyond
  · refine (members b inMiddle).elim (moves yLate b) fun inRight => rightLate b ?_
    exact List.mem_append_left beyond inRight
  · exact rightLate b (List.mem_cons_of_mem _ (List.mem_append_right _ isBeyond))

/-- A parted list that joins another makes a parted one. -/
lemma Joining.isParted (parts : less.Parts late) {left right out : List α} (h : Joining less left right out)
    (leftParted : IsParted late left) (rightParted : IsParted late right) : IsParted late out := by
  cases h with
  | noLeft => exact rightParted
  | noRight => exact leftParted
  | afterLeft placed =>
    obtain ⟨-, before⟩ := placed.parts parts (by rwa [List.append_nil])
    exact leftParted.append rightParted fun a listed isLate => rightParted.of_head (before a listed isLate)
  | beforeRight placed =>
    obtain ⟨after, -⟩ := placed.parts parts rightParted
    refine leftParted.append rightParted fun a listed isLate => after ?_
    exact leftParted.of_getLast? List.getLast?_concat a listed isLate
  | @fromFront fixed moving reached beyond tail x y placed placed' merging =>
    -- the first of the right run goes first, so only what is merged after it is to be shown parted
    obtain ⟨moves, stays⟩ := placed.parts parts leftParted
    obtain ⟨follows, reaches⟩ := placed'.parts parts rightParted
    obtain ⟨-, movingParted, -⟩ := leftParted.of_append
    obtain ⟨first, restParted⟩ := List.pairwise_cons.1 rightParted
    have members : ∀ b ∈ tail, b ∈ moving ++ [x] ∨ b ∈ reached := fun b listed =>
      List.mem_append.1 (merging.perm.subset listed)
    have parted : IsParted late tail := by
      refine merging.isParted (Placed.parts parts) movingParted (IsParted.of_append restParted).1 ?_
      intro z isLast b listed
      obtain rfl := Option.some.inj (List.getLast?_concat.symm.trans isLast)
      exact reaches b (List.mem_cons_of_mem _ listed)
    refine leftParted.join rightParted stays moves follows (List.pairwise_cons.2 ⟨fun b listed isLate => ?_, parted⟩) ?_
    · exact (members b listed).elim (moves isLate b) fun inRight => first b (List.mem_append_left _ inRight) isLate
    · refine List.forall_mem_cons.2 ⟨Or.inr List.mem_cons_self, fun b listed => ?_⟩
      exact (members b listed).imp_right (List.mem_cons_of_mem y)
  | @fromBack fixed moving reached beyond tail x y placed placed' merging =>
    -- turned round, late and early change places: the merged part is parted by `isParted_reverse`
    obtain ⟨moves, stays⟩ := placed.parts parts leftParted
    obtain ⟨follows, reaches⟩ := placed'.parts parts rightParted
    obtain ⟨-, movingParted, -⟩ := leftParted.of_append
    have rightParted' : IsParted late ((y :: reached) ++ beyond) := rightParted
    have members : ∀ b ∈ tail.reverse, b ∈ moving ∨ b ∈ y :: reached := fun b listed =>
      (List.mem_append.1 (merging.perm.subset (List.mem_reverse.1 listed))).symm.imp List.mem_reverse.1 List.mem_reverse.1
    have parted : IsParted late tail.reverse := by
      refine isParted_reverse.2 (merging.isParted (PlacedBack.parts parts) ?_ ?_ ?_)
      · rw [← isParted_reverse, List.reverse_reverse]
        exact rightParted'.of_append.1
      · rw [← isParted_reverse, List.reverse_reverse]
        exact movingParted.of_append.1
      · intro z isFirst b listed isEarly isLate
        rw [List.getLast?_reverse] at isFirst
        cases isFirst
        exact isEarly (moves isLate b (List.mem_append_left _ (List.mem_reverse.1 listed)))
    refine leftParted.join rightParted stays moves follows (parted.concat fun b listed isLate => ?_) fun b listed => ?_
    · refine (members b listed).elim (fun inLeft => ?_) fun inRight => reaches b inRight isLate
      exact movingParted.of_getLast? List.getLast?_concat b (List.mem_append_left _ inLeft) isLate
    · rcases List.mem_append.1 listed with inTail | isLast
      · exact (members b inTail).imp_left (List.mem_append_left _)
      · exact Or.inl (List.mem_append_right _ isLast)

lemma merge_isParted (parts : less.Parts late) {patience patience' : Nat} {left right out : List α}
    (leftParted : IsParted late left) (rightParted : IsParted late right)
    (h : merge less patience left right = .ok (out, patience')) : IsParted late out :=
  (merge_joining h).isParted parts leftParted rightParted

/-! ## Runs -/

/-- In a span of items each of which passes a test with the one before it, all are related in order. -/
lemma isChain_spanRun {follows : α → α → Except ε Bool} {R : α → α → Prop}
    (relates : ∀ a b, follows a b = .ok true → R a b) {previous : α} {xs run rest : List α}
    (h : spanRun follows previous xs = .ok (run, rest)) : (previous :: run).IsChain R := by
  induction xs generalizing previous run rest with
  | nil =>
    cases h
    exact .singleton previous
  | cons x xs ih =>
    obtain ⟨does, tested, h⟩ := bind_eq_ok.1 h
    cases does with
    | true =>
      obtain ⟨⟨run', rest'⟩, span, h⟩ := bind_eq_ok.1 h
      cases h
      exact .cons_cons (relates previous x tested) (ih span)
    | false =>
      cases h
      exact .singleton previous

/-- The run at the head of a list is parted. -/
lemma leadingRun_isParted (parts : less.Parts late) {xs run rest : List α}
    (h : leadingRun less xs = .ok (run, rest)) : IsParted late run := by
  rcases xs with _ | ⟨x, _ | ⟨y, xs⟩⟩
  · cases h
    exact .nil
  · cases h
    exact List.pairwise_singleton _ _
  · obtain ⟨isLess, compared, h⟩ := bind_eq_ok.1 h
    cases isLess with
    | true =>
      obtain ⟨⟨run', rest'⟩, span, h⟩ := bind_eq_ok.1 h
      cases h
      -- a run in reverse order begins with the last part, and is turned round
      have : Trans (fun a b : α => late b → late a) (fun a b => late b → late a) fun a b => late b → late a :=
        ⟨fun first second isLate => first (second isLate)⟩
      have chain : (x :: y :: run').IsChain fun a b => late b → late a :=
        .cons_cons (parts.late_of_less compared) (isChain_spanRun (fun _ _ less => parts.late_of_less less) span)
      exact List.pairwise_reverse.2 chain.pairwise
    | false =>
      obtain ⟨⟨run', rest'⟩, span, h⟩ := bind_eq_ok.1 h
      cases h
      have follows : ∀ a b, (! ·) <$> less b a = .ok true → late a → late b := by
        intro a b tested
        obtain ⟨isLess, compared, own⟩ := map_eq_ok.1 tested
        obtain rfl : isLess = false := Bool.not_eq_true' isLess |>.mp own
        exact parts.late_of_not_less compared
      have : Trans (fun a b : α => late a → late b) (fun a b => late a → late b) fun a b => late a → late b :=
        ⟨fun first second isLate => second (first isLate)⟩
      have chain : (x :: y :: run').IsChain fun a b => late a → late b :=
        .cons_cons (parts.late_of_not_less compared) (isChain_spanRun follows span)
      exact chain.pairwise

/-- An item is inserted into a parted run within its part. -/
lemma insertInto_isParted (parts : less.Parts late) {run out : List α} {x : α} (parted : IsParted late run)
    (h : insertInto less run x = .ok out) : IsParted late out := by
  obtain ⟨i, found, h⟩ := bind_eq_ok.1 h
  cases h
  have tests : ∀ j a b, run[j]? = some a → less x a = .ok b →
      testAt (fun y => (! ·) <$> less x y) run.toArray j = .ok (!b) := by
    intro j a b listed compared
    rw [testAt_toArray listed, compared]
    rfl
  obtain ⟨after, before⟩ := ends_of_bounds parted
    (fun isLate j a listed early => tests j a _ listed (parts a x early isLate).2)
    (fun early j a listed isLate => tests j a _ listed (parts x a early isLate).1)
    fun border within => ⟨fun holds => le_of_bisect (fun j _ => holds j) within found,
      fun fails => bisect_le fails (Nat.zero_le _) found⟩
  obtain ⟨taken, left, -⟩ := parted.of_cut i
  exact taken.through left before after

lemma foldlM_insertInto_isParted (parts : less.Parts late) {items run out : List α} (parted : IsParted late run)
    (h : items.foldlM (insertInto less) run = .ok out) : IsParted late out := by
  induction items generalizing run with
  | nil =>
    cases h
    exact parted
  | cons x items ih =>
    rw [List.foldlM_cons] at h
    obtain ⟨run', inserted, h⟩ := bind_eq_ok.1 h
    exact ih (insertInto_isParted parts parted inserted) h

lemma nextRun_isParted (parts : less.Parts late) {size : Nat} {xs run rest : List α}
    (h : nextRun less size xs = .ok (run, rest)) : IsParted late run := by
  obtain ⟨⟨lead, others⟩, leading, h⟩ := bind_eq_ok.1 h
  obtain ⟨filled, inserted, h⟩ := bind_eq_ok.1 h
  cases h
  exact foldlM_insertInto_isParted parts (leadingRun_isParted parts leading) inserted

/-! ## Waiting runs -/

/-- Whether all runs that wait are parted. -/
def AreParted (late : α → Prop) (runs : List (Waiting α)) : Prop := ∀ run ∈ runs, IsParted late run.items

lemma settle_areParted (parts : less.Parts late) {power patience patience' : Nat} {runs settled : List (Waiting α)}
    (parted : AreParted late runs) (h : settle less power patience runs = .ok (settled, patience')) :
    AreParted late settled := by
  fun_induction settle less power patience runs with
  | case1 patience last before rest above ih =>
    obtain ⟨⟨items, patience'⟩, merged, h⟩ := bind_eq_ok.1 h
    obtain ⟨lastParted, others⟩ := List.forall_mem_cons.1 parted
    obtain ⟨beforeParted, rest⟩ := List.forall_mem_cons.1 others
    exact ih items patience' (List.forall_mem_cons.2 ⟨merge_isParted parts beforeParted lastParted merged, rest⟩) h
  | case2 =>
    cases h
    exact parted
  | case3 =>
    cases h
    exact parted

lemma push_areParted (parts : less.Parts late) {n start patience patience' : Nat} {items : List α}
    {runs pushed : List (Waiting α)} (own : IsParted late items) (parted : AreParted late runs)
    (h : push less n start patience items runs = .ok (pushed, patience')) : AreParted late pushed := by
  cases runs with
  | nil =>
    cases h
    exact List.forall_mem_cons.2 ⟨own, nofun⟩
  | cons last rest =>
    obtain ⟨⟨settled, patience'⟩, isSettled, h⟩ := bind_eq_ok.1 h
    have parted' := settle_areParted parts parted isSettled
    cases settled with
    | nil =>
      cases h
      exact List.forall_mem_cons.2 ⟨own, nofun⟩
    | cons last' rest' =>
      cases h
      obtain ⟨lastParted, others⟩ := List.forall_mem_cons.1 parted'
      exact List.forall_mem_cons.2 ⟨own, List.forall_mem_cons.2 ⟨lastParted, others⟩⟩

lemma gather_areParted (parts : less.Parts late) {size n fuel patience patience' : Nat}
    {runs gathered : List (Waiting α)} {xs : List α} (parted : AreParted late runs)
    (h : gather less size n fuel patience runs xs = .ok (gathered, patience')) : AreParted late gathered := by
  induction fuel generalizing patience runs xs with
  | zero =>
    cases h
    exact parted
  | succ fuel ih =>
    cases xs with
    | nil =>
      cases h
      exact parted
    | cons x xs =>
      obtain ⟨⟨items, rest⟩, next, h⟩ := bind_eq_ok.1 h
      obtain ⟨⟨pushed, patience'⟩, isPushed, h⟩ := bind_eq_ok.1 h
      exact ih (push_areParted parts (nextRun_isParted parts next) parted isPushed) h

lemma collapse_isParted (parts : less.Parts late) {patience : Nat} {runs : List (Waiting α)} {out : List α}
    (parted : AreParted late runs) (h : collapse less patience runs = .ok out) : IsParted late out := by
  fun_induction collapse less patience runs with
  | case1 =>
    cases h
    exact .nil
  | case2 =>
    cases h
    exact parted _ List.mem_cons_self
  | case3 patience last before =>
    obtain ⟨⟨items, _⟩, merged, h⟩ := bind_eq_ok.1 h
    cases h
    obtain ⟨lastParted, others⟩ := List.forall_mem_cons.1 parted
    exact merge_isParted parts (others before List.mem_cons_self) lastParted merged
  | case4 patience last before first rest shorter ih =>
    obtain ⟨⟨items, patience'⟩, merged, h⟩ := bind_eq_ok.1 h
    obtain ⟨lastParted, others⟩ := List.forall_mem_cons.1 parted
    obtain ⟨beforeParted, others⟩ := List.forall_mem_cons.1 others
    obtain ⟨firstParted, others⟩ := List.forall_mem_cons.1 others
    refine ih items patience' (List.forall_mem_cons.2 ⟨lastParted, List.forall_mem_cons.2 ⟨?_, others⟩⟩) h
    exact merge_isParted parts firstParted beforeParted merged
  | case5 patience last before first rest notShorter ih =>
    obtain ⟨⟨items, patience'⟩, merged, h⟩ := bind_eq_ok.1 h
    obtain ⟨lastParted, others⟩ := List.forall_mem_cons.1 parted
    obtain ⟨beforeParted, others⟩ := List.forall_mem_cons.1 others
    exact ih items patience' (List.forall_mem_cons.2 ⟨merge_isParted parts beforeParted lastParted merged, others⟩) h

/-- Where a comparison puts everything else before a last part, a sorted list ends with that part. -/
lemma sort_isParted (parts : less.Parts late) {xs out : List α} (h : sort less xs = .ok out) : IsParted late out := by
  obtain ⟨⟨runs, patience⟩, gathered, h⟩ := bind_eq_ok.1 h
  exact collapse_isParted parts (gather_areParted parts (List.forall_mem_nil _) gathered) h

/-- It is enough that the comparison does so for the items of the list. -/
theorem pairwise_of_sort {xs out : List α}
    (parts : ∀ a ∈ xs, ∀ b ∈ xs, ¬ late a → late b → less a b = .ok true ∧ less b a = .ok false)
    (h : sort less xs = .ok out) : out.Pairwise fun a b => late a → late b := by
  rw [← List.attach_map_subtype_val xs, sort_map] at h
  obtain ⟨sorted, isSorted, rfl⟩ := map_eq_ok.1 h
  have own : (less.on Subtype.val).Parts fun a : {a // a ∈ xs} => late a :=
    fun a b => parts a a.2 b b.2
  exact List.pairwise_map.2 (sort_isParted own isSorted)

/-! ## Merge sort -/

variable {le : α → α → Bool}

lemma isParted_merge (parts : ∀ a b, ¬ late a → late b → le a b = true ∧ le b a = false) {xs ys : List α}
    (first : IsParted late xs) (second : IsParted late ys) : IsParted late (xs.merge ys le) := by
  induction xs, ys using List.merge.induct le with
  | case1 ys =>
    rw [List.nil_merge]
    exact second
  | case2 xs =>
    rw [List.merge_right]
    exact first
  | case3 x xs y ys before ih =>
    rw [List.cons_merge_cons, if_pos before]
    refine List.pairwise_cons.2 ⟨fun b listed isLate => ?_, ih (List.pairwise_cons.1 first).2 second⟩
    have yLate : late y := by
      by_contra early
      exact Bool.false_ne_true ((parts y x early isLate).2.symm.trans before)
    rcases List.mem_merge.1 listed with inFirst | inSecond
    · exact first.of_head isLate b (List.mem_cons_of_mem _ inFirst)
    · exact second.of_head yLate b inSecond
  | case4 x xs y ys notBefore ih =>
    rw [List.cons_merge_cons, if_neg notBefore]
    refine List.pairwise_cons.2 ⟨fun b listed isLate => ?_, ih first (List.pairwise_cons.1 second).2⟩
    have xLate : late x := by
      by_contra early
      exact notBefore (parts x y early isLate).1
    rcases List.mem_merge.1 listed with inFirst | inSecond
    · exact first.of_head xLate b inFirst
    · exact second.of_head isLate b (List.mem_cons_of_mem _ inSecond)

lemma isParted_mergeSort (parts : ∀ a b, ¬ late a → late b → le a b = true ∧ le b a = false) (xs : List α) :
    IsParted late (xs.mergeSort le) := by
  induction xs, le using List.mergeSort.induct with
  | case1 le =>
    rw [List.mergeSort_nil]
    exact .nil
  | case2 le x =>
    rw [List.mergeSort_singleton]
    exact List.pairwise_singleton _ _
  | case3 x y xs le lr _ _ first second =>
    rw [List.mergeSort]
    exact isParted_merge parts (first parts) (second parts)

/-- A list that is merge-sorted ends with a last part as well. -/
theorem pairwise_of_mergeSort {xs : List α}
    (parts : ∀ a ∈ xs, ∀ b ∈ xs, ¬ late a → late b → le a b = true ∧ le b a = false) :
    (xs.mergeSort le).Pairwise fun a b => late a → late b := by
  have own : IsParted (fun a : {a // a ∈ xs} => late a) (xs.attach.mergeSort fun a b => le a b) :=
    isParted_mergeSort (fun (a b : {a // a ∈ xs}) => parts a a.2 b b.2) _
  have sorted : (xs.attach.mergeSort fun a b => le a b).map Subtype.val = xs.mergeSort le := by
    rw [List.map_mergeSort (s := le) fun _ _ _ _ => rfl, List.attach_map_subtype_val]
  rw [← sorted]
  exact List.pairwise_map.2 own

/-! ### In so many steps -/

/-- Merging in at most so many steps, each of which takes an item. -/
def mergeWithin (le : α → α → Bool) : Nat → List α → List α → List α
  | _, [], ys => ys
  | _, xs, [] => xs
  | 0, xs, _ => xs
  | steps + 1, x :: xs, y :: ys =>
    if le x y then x :: mergeWithin le steps xs (y :: ys) else y :: mergeWithin le steps (x :: xs) ys

/-- Merge sort in at most so many steps, each of which halves the list. -/
def mergeSortWithin (le : α → α → Bool) : Nat → List α → List α
  | steps + 1, x :: y :: xs =>
    let half := ((x :: y :: xs).length + 1) / 2
    mergeWithin le (x :: y :: xs).length (mergeSortWithin le steps ((x :: y :: xs).take half))
      (mergeSortWithin le steps ((x :: y :: xs).drop half))
  | _, xs => xs

lemma merge_eq_mergeWithin {steps : Nat} {xs ys : List α} (enough : xs.length + ys.length ≤ steps) :
    xs.merge ys le = mergeWithin le steps xs ys := by
  induction steps generalizing xs ys with
  | zero =>
    obtain rfl : xs = [] := List.length_eq_zero_iff.1 (by omega)
    rw [List.nil_merge, mergeWithin]
  | succ steps ih =>
    cases xs with
    | nil => rw [List.nil_merge, mergeWithin]
    | cons x xs =>
      cases ys with
      | nil =>
        rw [List.merge_right, mergeWithin]
        exact List.cons_ne_nil x xs
      | cons y ys =>
        simp only [List.length_cons] at enough
        rw [List.cons_merge_cons, mergeWithin, ih (by rw [List.length_cons]; omega),
          ih (by rw [List.length_cons]; omega)]

lemma mergeSort_eq_mergeSortWithin_of_le {steps : Nat} {xs : List α} (enough : xs.length ≤ steps) :
    xs.mergeSort le = mergeSortWithin le steps xs := by
  induction steps generalizing xs with
  | zero =>
    obtain rfl : xs = [] := List.length_eq_zero_iff.1 (by omega)
    rw [List.mergeSort_nil]
    rfl
  | succ steps ih =>
    match xs with
    | [] =>
      rw [List.mergeSort_nil]
      rfl
    | [x] =>
      rw [List.mergeSort_singleton]
      rfl
    | x :: y :: xs =>
      -- sorted, the halves are as long as the list
      have halves : ∀ k, (((x :: y :: xs).take k).mergeSort le).length + (((x :: y :: xs).drop k).mergeSort le).length ≤
          (x :: y :: xs).length := by
        intro k
        rw [List.length_mergeSort, List.length_mergeSort, List.length_take, List.length_drop]
        omega
      rw [List.mergeSort, mergeSortWithin]
      simp only [List.MergeSort.Internal.splitInTwo_fst, List.MergeSort.Internal.splitInTwo_snd]
      rw [merge_eq_mergeWithin (halves _), ih (by simp only [List.length_take, List.length_cons] at *; omega),
        ih (by simp only [List.length_drop, List.length_cons] at *; omega)]

/-- With a step for each item the list is sorted. -/
lemma mergeSort_eq_mergeSortWithin (le : α → α → Bool) (xs : List α) :
    xs.mergeSort le = mergeSortWithin le xs.length xs :=
  mergeSort_eq_mergeSortWithin_of_le (Nat.le_refl _)

end ActivityReport.Sorting
