import ActivityReport.Payload.Issue

/-!
# Checked values

The result of reading a payload: a value, or every issue found. Reading the parts of a value side by
side collects the issues of all of them in order; a further check runs only on a value.
-/

namespace ActivityReport

/-- A value, or the issues that stand against it. -/
inductive Checked (α : Type) where
  | ok (value : α)
  | refused (issues : List Issue)
  deriving Repr

namespace Checked

/-- Refuses with a single problem at this place. -/
def problem {α : Type} (p : Problem) : Checked α := refused [⟨[], p⟩]

/-- Applies a function to the value. -/
def map {α β : Type} (f : α → β) : Checked α → Checked β
  | ok a => ok (f a)
  | refused issues => refused issues

/-- Two results side by side: the issues of both are collected. -/
def seq {α β : Type} (f : Checked (α → β)) (x : Checked α) : Checked β :=
  match f, x with
  | ok f, ok a => ok (f a)
  | ok _, refused issues => refused issues
  | refused issues, ok _ => refused issues
  | refused first, refused second => refused (first ++ second)

instance : Applicative Checked where
  pure := ok
  seq f x := seq f (x ())

/-- A further check on a value. -/
def andThen {α β : Type} (x : Checked α) (next : α → Checked β) : Checked β :=
  match x with
  | ok a => next a
  | refused issues => refused issues

/-- The result seen from one level further out. -/
def under {α : Type} (key : String) : Checked α → Checked α
  | ok a => ok a
  | refused issues => refused (issues.map (Issue.under key))

/-- The value, when there is no issue. -/
def value? {α : Type} : Checked α → Option α
  | ok a => some a
  | refused _ => none

/-- Results side by side, in order. -/
def all {α β : Type} (f : α → Checked β) : List α → Checked (List β)
  | [] => ok []
  | a :: rest => List.cons <$> f a <*> all f rest

@[simp] theorem map_eq {α β : Type} (f : α → β) (x : Checked α) : f <$> x = x.map f := by
  cases x <;> rfl

@[simp] theorem seq_eq {α β : Type} (f : Checked (α → β)) (x : Checked α) : f <*> x = f.seq x := rfl

/-- Parts read side by side give a value exactly when each of them does. -/
theorem seq_eq_ok_iff {α β : Type} {f : Checked (α → β)} {x : Checked α} {b : β} :
    f.seq x = ok b ↔ ∃ g a, f = ok g ∧ x = ok a ∧ g a = b := by
  cases f <;> cases x <;> simp [seq]

/-- A check after a reading gives a value exactly when both do. -/
theorem andThen_eq_ok_iff {α β : Type} {x : Checked α} {next : α → Checked β} {b : β} :
    x.andThen next = ok b ↔ ∃ a, x = ok a ∧ next a = ok b := by
  cases x <;> simp [andThen]

end Checked

end ActivityReport
