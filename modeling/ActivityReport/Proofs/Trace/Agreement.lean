import ActivityReport.Proofs.Trace.Outcome

/-!
# Agreement

Two computations agree when they fail alike or come to results that are related, and leave the same rest of
the clock (`Traced.Agree`). What they write to the log may differ. Agreement goes through steps in a row,
stages and choices, so that two reports are compared step by step.
-/

namespace ActivityReport

variable {ε δ α α' β β' : Type}

/-! ## Results -/

/-- Two results correspond when both are failures, the same one, or values that are related. -/
inductive Corresponds (R : α → β → Prop) : Except ε α → Except ε β → Prop where
  | ok {a : α} {b : β} (related : R a b) : Corresponds R (.ok a) (.ok b)
  | error (e : ε) : Corresponds R (.error e) (.error e)

namespace Corresponds

variable {R : α → β → Prop} {S : α' → β' → Prop} {x : Except ε α} {y : Except ε β}

/-- A result corresponds to itself. -/
lemma refl (x : Except ε α) : Corresponds Eq x x := by
  cases x with
  | ok a => exact .ok rfl
  | error e => exact .error e

/-- Results that correspond as equals are equal. -/
lemma eq {x y : Except ε α} (h : Corresponds Eq x y) : x = y := by
  cases h with
  | ok same => rw [same]
  | error e => rfl

/-- Related values may be related in a wider sense. -/
lemma mono {R' : α → β → Prop} (h : Corresponds R x y) (wider : ∀ a b, R a b → R' a b) : Corresponds R' x y := by
  cases h with
  | ok related => exact .ok (wider _ _ related)
  | error e => exact .error e

/-- What corresponds are the results. -/
lemma results (h : Corresponds R x y) : Corresponds (fun a b => R a b ∧ x = .ok a ∧ y = .ok b) x y := by
  cases h with
  | ok related => exact .ok ⟨related, rfl, rfl⟩
  | error e => exact .error e

/-- Steps in a row correspond when each of them does. -/
lemma bind {f : α → Except ε α'} {g : β → Except ε β'} (h : Corresponds R x y)
    (next : ∀ a b, R a b → Corresponds S (f a) (g b)) : Corresponds S (x >>= f) (y >>= g) := by
  cases h with
  | ok related => exact next _ _ related
  | error e => exact .error e

/-- Functions of results correspond. -/
lemma map {f : α → α'} {g : β → β'} (h : Corresponds R x y) (next : ∀ a b, R a b → S (f a) (g b)) :
    Corresponds S (f <$> x) (g <$> y) := by
  cases h with
  | ok related => exact .ok (next _ _ related)
  | error e => exact .error e

/-- Failures are renamed alike. -/
lemma mapError {f : ε → δ} (h : Corresponds R x y) : Corresponds R (x.mapError f) (y.mapError f) := by
  cases h with
  | ok related => exact .ok related
  | error e => exact .error (f e)

/-- A step for each item of two lists corresponds when it does for each two items. -/
lemma mapM {f : α → Except ε α'} {g : β → Except ε β'} {list : List α} {list' : List β}
    (related : List.Forall₂ R list list') (next : ∀ a b, R a b → Corresponds S (f a) (g b)) :
    Corresponds (List.Forall₂ S) (list.mapM f) (list'.mapM g) := by
  induction related with
  | nil => exact .ok .nil
  | cons first _ ih =>
    rw [List.mapM_cons, List.mapM_cons]
    refine (next _ _ first).bind fun a b same => ?_
    refine ih.bind fun as bs others => ?_
    exact .ok (.cons same others)

end Corresponds

/-! ## Traced computations -/

namespace Traced

/-- Two computations agree when their results correspond and they leave the same rest of the clock. -/
def Agree (R : α → β → Prop) (x : Traced ε α) (y : Traced ε β) : Prop :=
  ∀ clock, Corresponds R (x.run clock).result (y.run clock).result ∧ (x.run clock).clock = (y.run clock).clock

namespace Agree

variable {R : α → β → Prop} {S : α' → β' → Prop} {x : Traced ε α} {y : Traced ε β}

/-- A computation agrees with itself. -/
lemma refl (x : Traced ε α) : Agree Eq x x := fun _ => ⟨.refl _, rfl⟩

/-- Results that correspond agree. -/
lemma result {x : Except ε α} {y : Except ε β} (h : Corresponds R x y) :
    Agree R (Traced.result x) (Traced.result y) := fun _ => ⟨h, rfl⟩

/-- Values that are related agree. -/
lemma pure {a : α} {b : β} (h : R a b) : Agree R (Pure.pure a : Traced ε α) (Pure.pure b : Traced ε β) :=
  fun _ => ⟨.ok h, rfl⟩

/-- The same failure agrees with itself. -/
lemma fail (e : ε) : Agree R (Traced.fail e) (Traced.fail e) := fun _ => ⟨.error e, rfl⟩

/-- Steps in a row agree when each of them does. -/
lemma bind {f : α → Traced ε α'} {g : β → Traced ε β'} (h : Agree R x y) (next : ∀ a b, R a b → Agree S (f a) (g b)) :
    Agree S (x >>= f) (y >>= g) := by
  intro clock
  show Corresponds S (Traced.bind x f clock).result (Traced.bind y g clock).result ∧
    (Traced.bind x f clock).clock = (Traced.bind y g clock).clock
  obtain ⟨results, clocks⟩ := h clock
  unfold Traced.bind
  cases first : (x clock).result with
  | ok a =>
    cases first' : (y clock).result with
    | ok b =>
      rw [run, run, first, first'] at results
      cases results with
      | ok related =>
        simp only [first, first']
        rw [show (x clock).clock = (y clock).clock from clocks]
        exact next a b related _
    | error e =>
      rw [run, run, first, first'] at results
      cases results
  | error e =>
    cases first' : (y clock).result with
    | ok b =>
      rw [run, run, first, first'] at results
      cases results
    | error e' =>
      rw [run, run, first, first'] at results
      cases results
      simp only [first, first']
      exact ⟨.error e, clocks⟩

/-- Lines that only one of two computations writes, or writes differently, do not count. -/
lemma logAll_bind {lines lines' : List LogLine} {f : Unit → Traced ε α} {g : Unit → Traced ε β}
    (h : Agree R (f ()) (g ())) : Agree R (logAll lines >>= f) (logAll lines' >>= g) :=
  bind (R := fun _ _ => True) (fun _ => ⟨.ok trivial, rfl⟩) fun _ _ _ => h

/-- Lines that are written on a condition do not count. -/
lemma ite_logAll_bind {c c' : Prop} [Decidable c] [Decidable c'] {lines lines' : List LogLine}
    {f : Unit → Traced ε α} {g : Unit → Traced ε β} (h : Agree R (f ()) (g ())) :
    Agree R (if c then logAll lines >>= f else f ()) (if c' then logAll lines' >>= g else g ()) := by
  have quiet : ∀ lines clock, ((logAll lines >>= f).run clock).result = ((f ()).run clock).result ∧
      ((logAll lines >>= f).run clock).clock = ((f ()).run clock).clock := fun _ _ => ⟨rfl, rfl⟩
  have quiet' : ∀ lines clock, ((logAll lines >>= g).run clock).result = ((g ()).run clock).result ∧
      ((logAll lines >>= g).run clock).clock = ((g ()).run clock).clock := fun _ _ => ⟨rfl, rfl⟩
  intro clock
  split <;> split
  · rw [(quiet _ _).1, (quiet _ _).2, (quiet' _ _).1, (quiet' _ _).2]
    exact h clock
  · rw [(quiet _ _).1, (quiet _ _).2]
    exact h clock
  · rw [(quiet' _ _).1, (quiet' _ _).2]
    exact h clock
  · exact h clock

end Agree

/-- What a stage comes to its body comes to, one reading of the clock later; one more is taken after it, unless it
was stopped. -/
lemma run_stage {names : FailureNames ε} {wikiId name : String} {x : Traced ε α} (clock : List Float) :
    ((stage names wikiId name x).run clock).result = (x.run clock.tail).result ∧
      ((stage names wikiId name x).run clock).clock =
        match (x.run clock.tail).result with
        | .ok _ => (x.run clock.tail).clock.tail
        | .error e => if names.interrupts e then (x.run clock.tail).clock else (x.run clock.tail).clock.tail := by
  unfold stage run
  simp only [Bind.bind, Traced.bind, tick, attempt]
  cases result : (x clock.tail).result with
  | ok a => exact ⟨rfl, rfl⟩
  | error e =>
    simp only
    split <;> exact ⟨rfl, rfl⟩

/-- A timed report comes to what its body comes to, one reading of the clock later. -/
lemma run_timed {names : FailureNames ε} {wikiId : String} {rows : α → Option Json} {x : Traced ε α}
    (clock : List Float) : ((timed names wikiId rows x).run clock).result = (x.run clock.tail).result := by
  unfold timed run
  simp only [Bind.bind, Traced.bind, tick, attempt]
  cases (x clock.tail).result <;> rfl

/-- Stages whose bodies agree do. -/
lemma Agree.stage {R : α → β → Prop} {x : Traced ε α} {y : Traced ε β} {names : FailureNames ε}
    {wikiId name : String} (h : Agree R x y) :
    Agree R (Traced.stage names wikiId name x) (Traced.stage names wikiId name y) := by
  intro clock
  obtain ⟨results, clocks⟩ := h clock.tail
  rw [(run_stage clock).1, (run_stage clock).2, (run_stage clock).1, (run_stage clock).2, ← clocks]
  refine ⟨results, ?_⟩
  generalize (x.run clock.tail).result = first at results ⊢
  generalize (y.run clock.tail).result = second at results ⊢
  cases results <;> rfl

/-! ## Failures -/

/-- Whether all failures of a computation are of some kind. -/
def FailsOnly (P : ε → Prop) (x : Traced ε α) : Prop := ∀ clock e, (x.run clock).result = .error e → P e

namespace FailsOnly

variable {P : ε → Prop} {x : Traced ε α}

/-- Failures of a kind are of any wider kind. -/
lemma mono {Q : ε → Prop} (h : FailsOnly P x) (wider : ∀ e, P e → Q e) : FailsOnly Q x :=
  fun clock e failed => wider e (h clock e failed)

lemma pure (a : α) : FailsOnly P (Pure.pure a : Traced ε α) := fun _ _ h => nomatch h

lemma fail {e : ε} (h : P e) : FailsOnly P (Traced.fail e : Traced ε α) := by
  intro _ _ same
  rw [← Except.error.inj same]
  exact h

lemma result {y : Except ε α} (h : ∀ e, y = .error e → P e) : FailsOnly P (Traced.result y) := fun _ => h

lemma logAll (lines : List LogLine) : FailsOnly P (Traced.logAll lines) := fun _ _ h => nomatch h

lemma noteLookups (keys : List (List Cell)) : FailsOnly P (Traced.noteLookups keys) := fun _ _ h => nomatch h

lemma bind {f : α → Traced ε β} (h : FailsOnly P x) (next : ∀ a, FailsOnly P (f a)) : FailsOnly P (x >>= f) := by
  intro clock e failed
  rw [run_bind] at failed
  cases first : (x.run clock).result with
  | error e' =>
    rw [first] at failed
    have same : (Except.error e' : Except ε β) = .error e := failed
    rw [Except.error.inj same] at first
    exact h clock e first
  | ok a =>
    rw [first] at failed
    exact next a _ e failed

/-- A step that is taken on a condition only. -/
lemma ite_bind {c : Prop} [Decidable c] {y : Traced ε Unit} {f : Unit → Traced ε α} (h : FailsOnly P y)
    (next : FailsOnly P (f ())) : FailsOnly P (if c then y >>= f else f ()) := by
  split
  · exact h.bind fun _ => next
  · exact next

lemma stage {names : FailureNames ε} {wikiId name : String} (h : FailsOnly P x) :
    FailsOnly P (Traced.stage names wikiId name x) := by
  intro clock e failed
  rw [(run_stage clock).1] at failed
  exact h _ e failed

end FailsOnly

end Traced

end ActivityReport
