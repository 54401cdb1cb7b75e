import ActivityReport.Proofs.Trace.Outcome

/-!
# Look-ups of a computation

What is looked up on the way to a result, or up to a failure. A property of the look-ups of a computation and of what
it comes to (`Traced.Leaves`) is shown step by step: steps that look nothing up (`Traced.IsQuiet`) are passed
over, and the look-ups of two steps in a row follow each other.
-/

namespace ActivityReport.Traced

variable {ε α β : Type} {x : Traced ε α} {f : α → Traced ε β}

/-- Whether each run leaves look-ups and a result, or a failure, of some kind. -/
def Leaves (x : Traced ε α) (P : List (List Cell) → Except ε α → Prop) : Prop :=
  ∀ clock, P (x.run clock).lookups (x.run clock).result

/-- Whether nothing is looked up. -/
def IsQuiet (x : Traced ε α) : Prop := ∀ clock, (x.run clock).lookups = []

/-- The look-ups of two steps in a row follow each other; after a failure there are no more. -/
lemma lookups_bind (clock : List Float) : ((x >>= f).run clock).lookups =
    match (x.run clock).result with
    | .ok a => (x.run clock).lookups ++ ((f a).run (x.run clock).clock).lookups
    | .error _ => (x.run clock).lookups := by
  show (Traced.bind x f clock).lookups = _
  unfold Traced.bind run
  cases h : (x clock).result <;> simp only [h]

namespace Leaves

variable {P : List (List Cell) → Except ε α → Prop}

lemma result {r : Except ε α} (h : P [] r) : (Traced.result r).Leaves P := fun _ => h

lemma pure {a : α} (h : P [] (.ok a)) : (Pure.pure a : Traced ε α).Leaves P := fun _ => h

lemma fail {e : ε} (h : P [] (.error e)) : (Traced.fail e : Traced ε α).Leaves P := fun _ => h

lemma mono {Q : List (List Cell) → Except ε α → Prop} (h : x.Leaves P) (wider : ∀ asked r, P asked r → Q asked r) :
    x.Leaves Q := fun clock => wider _ _ (h clock)

/-- Two steps in a row leave what the second leaves after the first, or what the first leaves when it fails. -/
lemma bind {Q : List (List Cell) → Except ε β → Prop} (h : x.Leaves P)
    (failed : ∀ asked e, P asked (.error e) → Q asked (.error e))
    (next : ∀ asked a, x.ComesTo a → P asked (.ok a) → (f a).Leaves fun more r => Q (asked ++ more) r) :
    (x >>= f).Leaves Q := by
  intro clock
  have first := h clock
  rw [lookups_bind, run_bind]
  cases result : (x.run clock).result with
  | error e =>
    rw [result] at first
    exact failed _ e first
  | ok a =>
    rw [result] at first
    exact next _ a ⟨clock, result⟩ first _

end Leaves

namespace IsQuiet

lemma result (r : Except ε α) : (Traced.result r).IsQuiet := fun _ => rfl

lemma pure (a : α) : (Pure.pure a : Traced ε α).IsQuiet := fun _ => rfl

lemma logAll (lines : List LogLine) : (Traced.logAll lines : Traced ε Unit).IsQuiet := fun _ => rfl

/-- Two quiet steps in a row are quiet. -/
lemma bind (h : x.IsQuiet) (next : ∀ a, (f a).IsQuiet) : (x >>= f).IsQuiet := by
  intro clock
  rw [lookups_bind]
  cases (x.run clock).result with
  | error e => exact h clock
  | ok a =>
    show (x.run clock).lookups ++ ((f a).run (x.run clock).clock).lookups = []
    rw [h, next, List.append_nil]

/-- After a quiet step there is only what follows. -/
lemma bind_leaves {P : List (List Cell) → Except ε β → Prop} (h : x.IsQuiet) (failed : ∀ e, P [] (.error e))
    (next : ∀ a, x.ComesTo a → (f a).Leaves P) : (x >>= f).Leaves P := by
  have nothing : x.Leaves fun asked _ => asked = [] := h
  refine nothing.bind (fun asked e none => none ▸ failed e) fun asked a comes none => ?_
  rw [none]
  exact next a comes

lemma ite_bind {c : Prop} [Decidable c] {y : Traced ε Unit} {f : Unit → Traced ε α} (h : y.IsQuiet)
    (next : (f ()).IsQuiet) : (if c then y >>= f else f ()).IsQuiet := by
  split
  · exact h.bind fun _ => next
  · exact next

end IsQuiet

/-- Before quiet steps there is only what came first. -/
lemma Leaves.bind_quiet {P : List (List Cell) → Prop} (h : x.Leaves fun asked _ => P asked)
    (quiet : ∀ a, (f a).IsQuiet) : (x >>= f).Leaves fun asked _ => P asked := by
  refine h.bind (fun _ _ first => first) fun asked a _ first clock => ?_
  show P (asked ++ ((f a).run clock).lookups)
  rw [quiet a clock, List.append_nil]
  exact first

end ActivityReport.Traced
