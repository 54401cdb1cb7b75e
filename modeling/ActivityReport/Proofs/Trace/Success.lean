import ActivityReport.Proofs.Trace.Agreement

/-!
# Success

A computation *yields* a value when it comes to it whatever the clock reads (`Traced.Yields`). That goes through
steps in a row and through stages. A computation that does not look at the clock is steady: it yields what it comes
to for some readings (`Traced.IsSteady`).
-/

namespace ActivityReport.Traced

variable {ε α β : Type} {x : Traced ε α} {f : α → Traced ε β} {a : α} {b : β}

/-- Whether a computation comes to a value for all readings of the clock. -/
def Yields (x : Traced ε α) (a : α) : Prop := ∀ clock, (x.run clock).result = .ok a

/-- Whether a computation that comes to a value for some readings of the clock does so for all of them. -/
def IsSteady (x : Traced ε α) : Prop := ∀ a, x.ComesTo a → x.Yields a

namespace Yields

lemma pure (a : α) : (Pure.pure a : Traced ε α).Yields a := fun _ => rfl

lemma result {r : Except ε α} (h : r = .ok a) : (Traced.result r).Yields a := fun _ => h

lemma logAll (lines : List LogLine) : (Traced.logAll lines : Traced ε Unit).Yields () := fun _ => rfl

/-- Two steps in a row yield a value when both do. -/
lemma bind (h : x.Yields a) (next : (f a).Yields b) : (x >>= f).Yields b :=
  fun clock => run_bind_eq_ok.2 ⟨a, h clock, next _⟩

/-- What the body of a stage yields the stage yields. -/
lemma stage {names : FailureNames ε} {wikiId name : String} (h : x.Yields a) :
    (Traced.stage names wikiId name x).Yields a := fun clock => (run_stage clock).1.trans (h _)

/-- Lines that are written on a condition do not count. -/
lemma ite_logAll_bind {c : Prop} [Decidable c] {lines : List LogLine} {f : Unit → Traced ε α}
    (h : (f ()).Yields a) : (if c then Traced.logAll lines >>= f else f ()).Yields a := by
  split
  · exact (logAll lines).bind h
  · exact h

end Yields

namespace IsSteady

lemma pure (a : α) : (Pure.pure a : Traced ε α).IsSteady := by
  rintro _ ⟨_, same⟩ _
  exact same

lemma result (r : Except ε α) : (Traced.result r).IsSteady := by
  rintro _ ⟨_, same⟩ _
  exact same

lemma logAll (lines : List LogLine) : (Traced.logAll lines : Traced ε Unit).IsSteady := by
  rintro _ ⟨_, same⟩ _
  exact same

/-- Two steps in a row are steady when both are. -/
lemma bind (h : x.IsSteady) (next : ∀ a, (f a).IsSteady) : (x >>= f).IsSteady := by
  intro b comes
  obtain ⟨a, first, second⟩ := comes.bind
  exact (h a first).bind (next a b second)

end IsSteady

end ActivityReport.Traced
