import ActivityReport.Proofs.Query.Limits
import ActivityReport.Proofs.Query.Matching

/-!
# Sums in place of others

A sum stands for another one in some rows when it has the same value there and is no larger. What is built of
such sums stands for what is built of the others: expressions, predicates and whole queries. So one query gives
what another gives, and the database does not find it too large if it does not find the other too large.
-/

namespace ActivityReport

/-- What is made of related items one by one is the same when it is the same for each two of them. -/
lemma map_eq_of_forall₂ {α β γ : Type} {R : α → β → Prop} {f : α → γ} {g : β → γ} {list : List α} {list' : List β}
    (related : List.Forall₂ R list list') (same : ∀ a b, R a b → f a = g b) : list.map f = list'.map g := by
  induction related with
  | nil => rfl
  | cons first _ ih => rw [List.map_cons, List.map_cons, same _ _ first, ih]

/-- Lists made of related items are the same in a row when they are the same for each two of them. -/
lemma flatMap_eq_of_forall₂ {α β γ : Type} {R : α → β → Prop} {f : α → List γ} {g : β → List γ} {list : List α}
    {list' : List β} (related : List.Forall₂ R list list') (same : ∀ a b, R a b → f a = g b) :
    list.flatMap f = list'.flatMap g := by
  rw [List.flatMap_def, List.flatMap_def, map_eq_of_forall₂ related same]

/-! ## Sums -/

/-- Whether a sum has the value of another one in some rows and is no larger. -/
structure Sum.StandsFor (among : JoinedRow → Prop) (a' a : Sum) : Prop where
  eval : ∀ r, among r → a'.eval r = a.eval r
  depth : a'.depth ≤ a.depth
  places : a'.places ≤ a.places

namespace Sum.StandsFor

variable {among : JoinedRow → Prop} {a a' b b' : Sum}

lemma refl (a : Sum) : StandsFor among a a := ⟨fun _ _ => rfl, le_rfl, le_rfl⟩

lemma plus (left : StandsFor among a' a) (right : StandsFor among b' b) :
    StandsFor among (.plus a' b') (.plus a b) where
  eval r inside := by rw [Sum.eval, Sum.eval, left.eval r inside, right.eval r inside]
  depth := Nat.succ_le_succ (max_le_max left.depth right.depth)
  places := Nat.add_le_add left.places right.places

lemma minus (left : StandsFor among a' a) (right : StandsFor among b' b) :
    StandsFor among (.minus a' b') (.minus a b) where
  eval r inside := by rw [Sum.eval, Sum.eval, left.eval r inside, right.eval r inside]
  depth := Nat.succ_le_succ (max_le_max left.depth right.depth)
  places := Nat.add_le_add left.places right.places

/-- Sums stand for others when their parts do. -/
lemma ofList {list list' : List Sum} (parts : List.Forall₂ (StandsFor among) list' list) :
    StandsFor among (.ofList list') (.ofList list) := by
  cases parts with
  | nil => exact refl _
  | cons first rest => exact List.rel_foldl (fun _ _ left _ _ right => left.plus right) first rest

/-- Sums over the same items stand for others when the parts of each item do. -/
lemma ofList_map {α : Type} {part part' : α → Sum} (items : List α)
    (parts : ∀ item, StandsFor among (part' item) (part item)) :
    StandsFor among (.ofList (items.map part')) (.ofList (items.map part)) := by
  refine ofList ?_
  rw [List.forall₂_map_left_iff, List.forall₂_map_right_iff, List.forall₂_same]
  exact fun item _ => parts item

end Sum.StandsFor

/-! ## Expressions -/

/-- Whether an expression has the value of another one in some rows and is no larger. -/
structure Expression.StandsFor (among : JoinedRow → Prop) (e' e : Expression) : Prop extends e'.NoLarger e where
  parameters : e'.parameters = e.parameters
  eval : ∀ r, among r → e'.eval r = e.eval r

namespace Expression.StandsFor

variable {among : JoinedRow → Prop} {a a' b b' : Sum}

lemma refl (e : Expression) : StandsFor among e e := ⟨⟨le_rfl, le_rfl, le_rfl⟩, rfl, fun _ _ => rfl⟩

lemma amount (h : a'.StandsFor among a) : StandsFor among (.amount a') (.amount a) where
  depth := h.depth
  arity := le_rfl
  places := h.places
  parameters := rfl
  eval r inside := by rw [Expression.eval, Expression.eval, h.eval r inside]

lemma share (left : a'.StandsFor among a) (right : b'.StandsFor among b) :
    StandsFor among (.share a' b') (.share a b) where
  depth := by
    have := left.depth
    have := right.depth
    simp only [Expression.depth]
    omega
  arity := le_rfl
  places := by
    have := left.places
    have := right.places
    simp only [Expression.places]
    omega
  parameters := rfl
  eval r inside := by rw [Expression.eval, Expression.eval, left.eval r inside, right.eval r inside]

lemma milestone (left : a'.StandsFor among a) (right : b'.StandsFor among b) (milestones : List Int) :
    StandsFor among (.milestone a' b' milestones) (.milestone a b milestones) where
  depth := Nat.add_le_add_right (max_le_max left.depth right.depth) 3
  arity := le_rfl
  places := Nat.mul_le_mul_left _ (Nat.add_le_add_right (Nat.add_le_add left.places right.places) 3)
  parameters := rfl
  eval r inside := by rw [Expression.eval, Expression.eval, left.eval r inside, right.eval r inside]

end Expression.StandsFor

/-! ## Predicates -/

/-- Whether a predicate holds in the same of some rows as another one and is no larger. -/
structure Predicate.StandsFor (among : JoinedRow → Prop) (p' p : Predicate) : Prop extends p'.NoLarger p where
  parameters : p'.parameters = p.parameters
  holds : ∀ s r, among r → p'.holds s r = p.holds s r

namespace Predicate.StandsFor

variable {among : JoinedRow → Prop}

lemma refl (p : Predicate) : StandsFor among p p :=
  ⟨⟨List.forall₂_same.2 fun _ _ => ⟨le_rfl, le_rfl⟩, le_rfl⟩, rfl, fun _ _ _ => rfl⟩

lemma positive {e e' : Expression} (h : e'.StandsFor among e) : StandsFor among (.positive e') (.positive e) where
  conjuncts := .cons ⟨Nat.succ_le_succ h.depth, le_rfl⟩ .nil
  places := Nat.succ_le_succ h.places
  parameters := h.parameters
  holds s r inside := by rw [Predicate.holds, Predicate.holds, h.eval r inside]

lemma crossed {a a' b b' : Sum} (left : a'.StandsFor among a) (right : b'.StandsFor among b)
    (milestones : List Int) : StandsFor among (.crossed a' b' milestones) (.crossed a b milestones) where
  conjuncts := by
    have options : List.Forall₂ (List.Forall₂ (· ≤ ·))
        (milestones.map fun _ => [b'.depth + 1, a'.depth + 1])
        (milestones.map fun _ => [b.depth + 1, a.depth + 1]) := by
      rw [List.forall₂_map_left_iff, List.forall₂_map_right_iff, List.forall₂_same]
      exact fun _ _ => .cons (Nat.succ_le_succ right.depth) (.cons (Nat.succ_le_succ left.depth) .nil)
    exact Predicate.alternatives_mono options
  places := Nat.mul_le_mul_left _ (Nat.add_le_add_right (Nat.add_le_add left.places right.places) 2)
  parameters := rfl
  holds s r inside := by rw [Predicate.holds, Predicate.holds, left.eval r inside, right.eval r inside]

end Predicate.StandsFor

/-- The conditions of a column whose expression stands for that of another one stand for those of the other. -/
lemma Column.predicates_standsFor {among : JoinedRow → Prop} {c c' : Column} {w w' : Window}
    (value : Option.Rel (Expression.StandsFor among) (c'.expression? w') (c.expression? w))
    (more : c'.moreThanZero = c.moreThanZero) :
    List.Forall₂ (Predicate.StandsFor among) (c'.predicates w') (c.predicates w) := by
  unfold predicates
  rw [more]
  split
  · generalize c'.expression? w' = left at value ⊢
    generalize c.expression? w = right at value ⊢
    cases value with
    | some same => exact .cons (.positive same) .nil
    | none => exact .nil
  · exact .nil

/-! ## Queries -/

/-- Whether a query has the values and the conditions of another one in some rows and is no larger. -/
structure Query.StandsFor (among : JoinedRow → Prop) (q' q : Query) : Prop where
  plan : q'.plan.NoLarger q.plan
  columns : List.Forall₂ (Option.Rel (Expression.StandsFor among)) q'.columns q.columns
  predicates : List.Forall₂ (Predicate.StandsFor among) q'.predicates q.predicates

namespace Query.StandsFor

variable {among : JoinedRow → Prop} {q q' : Query}

lemma noLarger (h : q'.StandsFor among q) : q'.NoLarger q where
  plan := h.plan
  columns := h.columns.imp fun _ _ same => by
    cases same with
    | some same => exact .some same.toNoLarger
    | none => exact .none
  predicates := h.predicates.imp fun _ _ same => same.toNoLarger

/-- The numbers that are compared with are the same, save for those that name scopes. -/
lemma parameters_eq (h : q'.StandsFor among q) :
    q'.parameters = q'.plan.parameters ++ (q.columns.filterMap id).flatMap Expression.parameters ++
      q.predicates.flatMap Predicate.parameters := by
  have values : List.Forall₂ (Expression.StandsFor among) (q'.columns.filterMap id) (q.columns.filterMap id) :=
    List.rel_filterMap (fun _ _ same => same) h.columns
  rw [parameters, flatMap_eq_of_forall₂ values fun _ _ same => same.parameters,
    flatMap_eq_of_forall₂ h.predicates fun _ _ same => same.parameters]

/-- In a row that they are compared in both queries have the same values of columns. -/
lemma column_cell_eq (h : q'.StandsFor among q) {j : JoinedRow} (inside : among j) (i : Nat) :
    (RawRow.ofJoined q' j).cell (.column i) = (RawRow.ofJoined q j).cell (.column i) := by
  have values : ∀ (list' list : List (Option Expression)) (i : Nat),
      List.Forall₂ (Option.Rel (Expression.StandsFor among)) list' list →
        list'[i]?.map (Option.map (Expression.eval j)) = list[i]?.map (Option.map (Expression.eval j)) := by
    intro list' list i related
    induction related generalizing i with
    | nil => rfl
    | cons first _ ih =>
      cases i with
      | zero =>
        cases first with
        | some same => exact congrArg (fun cell => some (some cell)) (same.eval j inside)
        | none => rfl
      | succ i => exact ih i
  have value : ∀ q : Query, (RawRow.ofJoined q j).cell (.column i) =
      ((q.columns[i]?.map (Option.map (Expression.eval j))).join).getD .null := by
    intro q
    unfold RawRow.ofJoined
    dsimp only
    rcases q.columns[i]? with _ | _ | e <;> rfl
  rw [value, value, values _ _ i h.columns]

/-- In a row that they are compared in the conditions of both queries hold or fail together. -/
lemma holds_eq (h : q'.StandsFor among q) (s : Store) {j : JoinedRow} (inside : among j) :
    q'.predicates.all (·.holds s j) = q.predicates.all (·.holds s j) := by
  have related := h.predicates
  generalize q'.predicates = list' at related ⊢
  generalize q.predicates = list at related ⊢
  induction related with
  | nil => rfl
  | cons first _ ih => rw [List.all_cons, List.all_cons, first.holds s j inside, ih]

end Query.StandsFor

end ActivityReport
