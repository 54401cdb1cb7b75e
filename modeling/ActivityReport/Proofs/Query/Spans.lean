import ActivityReport.Proofs.Number.Zero
import ActivityReport.Proofs.Plan.Coverage
import ActivityReport.Proofs.Query.Replacement

/-!
# Spans of a window without a first day

In a window without a first day a period begins with the registration of an actor: nothing is taken away from
the total at the last day. What is taken away is written as a 0, and an amount of the store stays as it is
without it. So the columns over a period need, and show, what the columns since registration do, and the
latter make the smaller query (`Column.standsFor_of_extends`).
-/

namespace ActivityReport

/-! ## Nothing taken away -/

namespace Amount

/-- Whether an amount is one that the store works with: a whole number of one word, or a double. -/
def IsStored (a : Amount) : Prop := ∀ n, a = .whole n → Number.fitsWord n = true

lemma isStored_combine {exact : Int → Int → Int} {rounded : Float → Float → Float} {a b : Amount} :
    (combine exact rounded a b).IsStored := by
  intro n same
  unfold combine at same
  split at same
  · split at same
    · rename_i fits
      cases same
      exact fits
    · cases same
  · cases same

/-- An amount of the store from which 0 is taken stays as it is. -/
lemma sub_zero {a : Amount} (stored : a.IsStored) : sub a (.whole 0) = a := by
  cases a with
  | whole n =>
    rw [sub_whole, Int.sub_zero]
    rw [Int.sub_zero]
    exact stored n rfl
  | real x => exact congrArg Number.Numeral.real (Number.sub_ofInt_zero x)

end Amount

/-- A sum has an amount of the store as its value. -/
lemma Sum.isStored_eval (r : JoinedRow) (a : Sum) : (a.eval r).IsStored := by
  cases a with
  | none =>
    intro n same
    cases same
    rfl
  | total key counter =>
    rw [eval]
    split
    · exact Amount.isStored_combine
    · intro n same
      cases same
      rfl
  | plus a b | minus a b => exact Amount.isStored_combine

/-- A sum stands for itself less nothing. -/
lemma Sum.standsFor_minus_none {among : JoinedRow → Prop} (a : Sum) : a.StandsFor among (.minus a .none) where
  eval r _ := (Amount.sub_zero (isStored_eval r a)).symm
  depth := Nat.le_succ_of_le (le_max_left _ _)
  places := Nat.le_add_right _ _

namespace Window

variable {w : Window} {d : Dimension} {counter : Counter} {scope : Scope} {among : JoinedRow → Prop}

/-- A window without a first day needs the total at its last day over either span. -/
lemma needSpan_eq_of_start_eq_none (timeless : w.start = none) (span : Span) :
    w.needSpan d span scope = w.needSpan d .sinceRegistration scope := by
  cases span with
  | sinceRegistration => rfl
  | inPeriod => rw [needSpan, needBefore, timeless]; rfl

/-- In a window without a first day the total since registration stands for the one over either span. -/
lemma standsFor_overSpan (timeless : w.start = none) (span : Span) :
    (w.overSpan d .sinceRegistration counter scope).StandsFor among (w.overSpan d span counter scope) := by
  cases span with
  | sinceRegistration => exact .refl _
  | inPeriod =>
    rw [overSpan, overSpan, atStart, timeless]
    exact Sum.standsFor_minus_none _

end Window

/-! ## Columns -/

/-- The column type since registration that corresponds to a column type. -/
def ColumnType.sinceRegistration : ColumnType → ColumnType
  | .count counter _ ratio form => .count counter .sinceRegistration ratio form
  | .averagePerDay counter _ => .averagePerDay counter .sinceRegistration
  | t => t

/-- The column since registration that corresponds to a column. -/
def Column.sinceRegistration (c : Column) : Column where
  type := c.type.sinceRegistration
  id := c.id
  parameter := c.parameter
  moreThanZero := c.moreThanZero
  fits := by
    have shape : c.type.sinceRegistration.shape = c.type.shape := by cases c.type <;> rfl
    rw [shape]
    exact c.fits

/-- Whether a column is another one, or the one since registration that corresponds to it. -/
def Column.Extends (c' c : Column) : Prop := c' = c ∨ c' = c.sinceRegistration

namespace Column

variable {w : Window} {c c' : Column} {among : JoinedRow → Prop}

/-- A column that is taken over no span is its own. -/
lemma sinceRegistration_eq_self (same : c.type.sinceRegistration = c.type) : c.sinceRegistration = c := by
  obtain ⟨type, id, parameter, moreThanZero, fits⟩ := c
  simp only [sinceRegistration, Column.mk.injEq, and_true]
  exact same

/-- In a window without a first day it needs the same. -/
lemma needs_eq_of_extends (timeless : w.start = none) (extended : c'.Extends c) : c'.needs w = c.needs w := by
  rcases extended with rfl | rfl
  · rfl
  · cases type : c.type with
    | count counter span ratio form =>
      simp only [needs, sinceRegistration, type, ColumnType.sinceRegistration,
        w.needSpan_eq_of_start_eq_none timeless span]
      rfl
    | averagePerDay counter span =>
      simp only [needs, sinceRegistration, type, ColumnType.sinceRegistration,
        w.needSpan_eq_of_start_eq_none timeless span]
    | _ => rw [sinceRegistration_eq_self (by rw [type]; rfl)]

/-- In a window without a first day its expression stands for that of the other column. -/
lemma standsFor_of_extends (timeless : w.start = none) (extended : c'.Extends c) :
    Option.Rel (Expression.StandsFor among) (c'.expression? w) (c.expression? w) := by
  have self : Option.Rel (Expression.StandsFor among) (c.expression? w) (c.expression? w) := by
    cases c.expression? w with
    | none => exact .none
    | some e => exact .some (.refl e)
  rcases extended with rfl | rfl
  · exact self
  · cases type : c.type with
    | count counter span ratio form =>
      have scopes : ∀ d, Sum.StandsFor among (w.overScopes d .sinceRegistration counter c.scopes)
          (w.overScopes d span counter c.scopes) :=
        fun d => Sum.StandsFor.ofList_map c.scopes fun scope => w.standsFor_overSpan timeless span
      simp only [expression?, sinceRegistration, type, ColumnType.sinceRegistration]
      cases ratio with
      | none => exact .some (.amount (scopes .actor))
      | wikiTotal => exact .some (.share (scopes .actor) (scopes .wiki))
      | ownTotalEdits => exact .some (.share (scopes .actor) (w.standsFor_overSpan timeless span))
    | averagePerDay counter span =>
      simp only [expression?, sinceRegistration, type, ColumnType.sinceRegistration]
      exact .some (.share (w.standsFor_overSpan timeless span) (w.standsFor_overSpan timeless span))
    | _ =>
      rw [sinceRegistration_eq_self (by rw [type]; rfl)]
      exact self

end Column

end ActivityReport
