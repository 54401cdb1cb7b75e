import ActivityReport.Proofs.Number.Order

/-!
# What cells are compared by

A cell of a family stands for a value: a place among the numbers, a text without regard to case, a day, or a list
of texts. Values of one family are in a strict total order (`SortValue.lt_or_eq_or_gt`), and two cells that stand
for such values are compared as the values are, by the order of any two cells and by that of the cells of one
family alike (`Cell.StandsFor.tryCompare`).
-/

namespace ActivityReport

/-! ## Values -/

/-- What a cell is compared by: one kind of value for each family of cells. -/
inductive SortValue where
  | number (place : WithBot (WithTop ℚ))
  | text (folded : String)
  | day (d : Date)
  | texts (list : List String)

namespace SortValue

/-- The family of the cells that stand for a value. -/
def family : SortValue → CellFamily
  | number _ => .number
  | text _ => .text
  | day _ => .day
  | texts _ => .texts

/-- Values of one family are ordered by size, by code point, by the calendar or item by item; those of two
families have no order. -/
inductive Below : SortValue → SortValue → Prop
  | number {x y : WithBot (WithTop ℚ)} : x < y → Below (number x) (number y)
  | text {s t : String} : s < t → Below (text s) (text t)
  | day {d e : Date} : d < e → Below (day d) (day e)
  | texts {l m : List String} : l < m → Below (texts l) (texts m)

instance : LT SortValue := ⟨Below⟩

variable {x y z : SortValue}

lemma not_lt_self (x : SortValue) : ¬ x < x := by
  rintro (h | h | h | h)
  · exact lt_irrefl _ h
  · exact lt_irrefl _ h
  · exact Nat.lt_irrefl _ h
  · exact lt_irrefl _ h

lemma lt_of_lt_of_lt (h : x < y) (h' : y < z) : x < z := by
  cases h with
  | number h => cases h' with | number h' => exact .number (h.trans h')
  | text h => cases h' with | text h' => exact .text (h.trans h')
  | day h => cases h' with | day h' => exact .day (Nat.lt_trans h h')
  | texts h => cases h' with | texts h' => exact .texts (h.trans h')

/-- Values of one family are in a total order. -/
lemma lt_or_eq_or_gt (same : x.family = y.family) : x < y ∨ x = y ∨ y < x := by
  cases x <;> cases y <;> cases same
  case number x y => exact (lt_trichotomy x y).imp .number (.imp (congrArg _) .number)
  case text s t => exact (lt_trichotomy s t).imp .text (.imp (congrArg _) .text)
  case texts l m => exact (lt_trichotomy l m).imp .texts (.imp (congrArg _) .texts)
  case day d e =>
    exact (Nat.lt_trichotomy d.ordinal e.ordinal).imp .day (.imp (fun same => congrArg _ (Date.ext same)) .day)

end SortValue

lemma compare_compares {α : Type} [LinearOrder α] (x y : α) : (compare x y).Compares x y :=
  cmp_eq_compare x y ▸ cmp_compares x y

/-- What tells the order of two things tells that of what they are mapped to. -/
lemma compares_map {α β : Type} [LT α] [LT β] {f : α → β} (mono : ∀ {x y}, x < y → f x < f y) {o : Ordering}
    {x y : α} (h : o.Compares x y) : o.Compares (f x) (f y) := by
  cases o with
  | lt => exact mono h
  | eq => exact congrArg f h
  | gt => exact mono h

/-! ## Cells -/

namespace Cell

/-- Whether a cell is compared by a value. -/
inductive StandsFor : Cell → SortValue → Prop
  | number {c : Cell} {n : Number.Numeral} {p : WithBot (WithTop ℚ)} :
    c.number? = some n → n.place? = some p → StandsFor c (.number p)
  | text (s : String) : StandsFor (.text s) (.text (Text.caseFold s))
  | day (d : Date) : StandsFor (.date d) (.day d)
  | texts (list : List String) : StandsFor (.list (list.map .text)) (.texts list)

/-- Texts are compared in their lists one by one. -/
lemma tryOrderItems_texts (l m : List String) :
    tryOrderItems (l.map .text) (m.map .text) = .ok (compare l m) ∧ (compare l m).Compares l m := by
  induction l generalizing m with
  | nil =>
    cases m with
    | nil => exact ⟨by rw [List.map_nil, tryOrderItems]; rfl, rfl⟩
    | cons t m => exact ⟨by rw [List.map_nil, List.map_cons, tryOrderItems]; rfl, List.nil_lt_cons t m⟩
  | cons s l ih =>
    cases m with
    | nil => exact ⟨by rw [List.map_nil, List.map_cons, tryOrderItems]; rfl, List.nil_lt_cons s l⟩
    | cons t m =>
      obtain ⟨rest, tells⟩ := ih m
      have first : compare (s :: l) (t :: m) = (compare s t).then (compare l m) := List.compareLex_cons_cons
      have texts : (compare s t).Compares s t := compare_compares s t
      rw [List.map_cons, List.map_cons, tryOrderItems, same, tryOrder, rest, first]
      -- lists are compared by their first items, and by the rest only where these are the same
      cases order : compare s t with
      | lt =>
        rw [order] at texts
        have less : s < t := texts
        rw [beq_false_of_ne less.ne]
        exact ⟨rfl, List.cons_lt_cons_iff.2 (Or.inl less)⟩
      | gt =>
        rw [order] at texts
        have less : t < s := texts
        rw [beq_false_of_ne less.ne']
        exact ⟨rfl, List.cons_lt_cons_iff.2 (Or.inl less)⟩
      | eq =>
        rw [order] at texts
        have equal : s = t := texts
        subst equal
        rw [beq_self_eq_true]
        refine ⟨rfl, ?_⟩
        show (compare l m).Compares (s :: l) (s :: m)
        revert tells
        cases compare l m <;> intro tells
        · exact List.cons_lt_cons_iff.2 (Or.inr ⟨rfl, tells⟩)
        · exact congrArg _ tells
        · exact List.cons_lt_cons_iff.2 (Or.inr ⟨rfl, tells⟩)

namespace StandsFor

variable {a b c : Cell} {x y : SortValue}

/-- A cell that is compared by a value has a value, and is of its family. -/
lemma family (h : c.StandsFor x) : c.isNull = false ∧ c.family? = some x.family := by
  cases h with
  | text | day => exact ⟨rfl, rfl⟩
  | texts list =>
    refine ⟨rfl, ?_⟩
    show (if (list.map Cell.text).all (·.text?.isSome) then some CellFamily.texts else none) = _
    rw [if_pos]
    · rfl
    · simp [text?]
  | @number c n p isNumber place =>
    cases c with
    | int | bool => exact ⟨rfl, rfl⟩
    | float x =>
      cases isNumber
      exact ⟨rfl, if_neg (Bool.eq_false_iff.1 (Number.exists_place_iff.1 ⟨p, place⟩))⟩
    | minusNaN =>
      cases isNumber
      exact absurd (Number.exists_place_iff.1 ⟨p, place⟩) (by decide)
    | _ => cases isNumber

/-- Numbers are compared by their places in either way. -/
lemma tryCompare_number {p p' : WithBot (WithTop ℚ)} (ha : a.StandsFor (.number p)) (hb : b.StandsFor (.number p')) :
    a.tryCompare b = .ok (cmp p p') ∧ a.order b = cmp p p' := by
  obtain ⟨m, d, own, isNumber, place, quantity, same⟩ := exists_place ha.family.2
  obtain ⟨n, d', own', isNumber', place', quantity', same'⟩ := exists_place hb.family.2
  obtain rfl : own = p := by
    cases ha with
    | number first at' =>
      rw [isNumber] at first
      cases first
      exact Option.some.inj (place.symm.trans at')
  obtain rfl : own' = p' := by
    cases hb with
    | number first at' =>
      rw [isNumber'] at first
      cases first
      exact Option.some.inj (place'.symm.trans at')
  -- the two ways in which numbers are compared
  have asNumbers : m.compare n = cmp own own' := Number.Numeral.compare_eq_cmp place place'
  have asQuantities : orderQuantity (false, d) (false, d') = .ok (cmp own own') := by
    unfold orderQuantity
    rw [ExtendedDecimal.order?_eq_cmp same same']
  cases a <;> cases isNumber <;> cases quantity <;> cases b <;> cases isNumber' <;> cases quantity' <;>
    exact ⟨asQuantities, asNumbers⟩

/-- Two cells that are compared by values of one family are compared as the values are. -/
theorem tryCompare (ha : a.StandsFor x) (hb : b.StandsFor y) (same : x.family = y.family) :
    a.tryCompare b = .ok (a.order b) ∧ (a.order b).Compares x y := by
  cases ha with
  | text s =>
    cases hb <;> cases same
    case text t =>
      have folded : (compareFolded s t).Compares (Text.caseFold s) (Text.caseFold t) := compare_compares _ _
      exact ⟨rfl, compares_map SortValue.Below.text folded⟩
  | day d =>
    cases hb <;> cases same
    case day e =>
      refine ⟨rfl, ?_⟩
      have days : (compare d.ordinal e.ordinal).Compares d.ordinal e.ordinal := compare_compares _ _
      show (compare d.ordinal e.ordinal).Compares _ _
      revert days
      cases compare d.ordinal e.ordinal <;> intro days
      · exact .day days
      · exact congrArg _ (Date.ext days)
      · exact .day days
  | texts l =>
    cases hb <;> cases same
    case texts m =>
      obtain ⟨tried, tells⟩ := tryOrderItems_texts l m
      have texts : ∀ l : List String, (l.map Cell.text).filterMap text? = l := by
        intro l
        rw [List.filterMap_map]
        exact List.filterMap_some
      have order : (list (l.map .text)).order (list (m.map .text)) = compare l m := by
        show compare ((l.map Cell.text).filterMap text?) ((m.map Cell.text).filterMap text?) = _
        rw [texts, texts]
      rw [order]
      exact ⟨tried, compares_map SortValue.Below.texts tells⟩
  | number isNumber place =>
    have ha := StandsFor.number isNumber place
    cases y with
    | number p' =>
      obtain ⟨tried, order⟩ := tryCompare_number ha hb
      rw [tried, order]
      exact ⟨rfl, compares_map SortValue.Below.number (cmp_compares _ _)⟩
    | _ => cases same

end StandsFor

end Cell

end ActivityReport
