import ActivityReport.Trace.Telemetry
import Mathlib.Data.List.Forall2
import Mathlib.Tactic.Lemma

/-!
# Outcomes

What a computation that may fail comes to, apart from its trace. A chain of steps succeeds exactly when
each of its steps does. A traced computation *comes to* a value when some clock leads it there
(`Traced.ComesTo`): lines, stages and notes have no part in it, so that the value of a chain is traced back
to the values of its steps by `Traced.ComesTo.bind`, through `stage`, `timed` and `attempt`.
-/

namespace ActivityReport

variable {ε δ α β : Type}

/-! ## Steps that may fail -/

/-- Two steps in a row succeed exactly when both do. -/
lemma bind_eq_ok {x : Except ε α} {f : α → Except ε β} {b : β} :
    x >>= f = .ok b ↔ ∃ a, x = .ok a ∧ f a = .ok b := by
  cases x with
  | error e => exact ⟨nofun, nofun⟩
  | ok a => exact ⟨fun h => ⟨a, rfl, h⟩, fun ⟨_, rfl, h⟩ => h⟩

/-- Two steps in a row fail as the first does, or as the second does after it. -/
lemma bind_eq_error {x : Except ε α} {f : α → Except ε β} {e : ε} :
    x >>= f = .error e ↔ x = .error e ∨ ∃ a, x = .ok a ∧ f a = .error e := by
  cases x with
  | error e' =>
    refine ⟨fun h => Or.inl (congrArg Except.error (Except.error.inj h)), ?_⟩
    rintro (h | ⟨_, h, _⟩)
    · exact congrArg Except.error (Except.error.inj h)
    · cases h
  | ok a => exact ⟨fun h => Or.inr ⟨a, rfl, h⟩, fun h => h.elim nofun fun ⟨_, rfl, h⟩ => h⟩

/-- A function of a result succeeds exactly when there is the result. -/
lemma map_eq_ok {x : Except ε α} {f : α → β} {b : β} : f <$> x = .ok b ↔ ∃ a, x = .ok a ∧ f a = b := by
  cases x with
  | error e => exact ⟨nofun, nofun⟩
  | ok a => exact ⟨fun h => ⟨a, rfl, Except.ok.inj h⟩, fun ⟨_, rfl, h⟩ => congrArg Except.ok h⟩

/-- Renaming failures changes no result. -/
lemma mapError_eq_ok {x : Except ε α} {f : ε → δ} {a : α} : x.mapError f = .ok a ↔ x = .ok a := by
  cases x with
  | error e => exact ⟨nofun, nofun⟩
  | ok a => exact ⟨fun h => congrArg Except.ok (Except.ok.inj h), fun h => congrArg Except.ok (Except.ok.inj h)⟩

lemma mapError_eq_error {x : Except ε α} {f : ε → δ} {e : δ} : x.mapError f = .error e ↔ ∃ e', x = .error e' ∧ f e' = e := by
  cases x with
  | error e' => exact ⟨fun h => ⟨e', rfl, Except.error.inj h⟩, fun ⟨_, rfl, h⟩ => congrArg Except.error h⟩
  | ok a => exact ⟨nofun, nofun⟩

/-- A step for each item of a list succeeds exactly when all of them do. -/
lemma mapM_eq_ok {f : α → Except ε β} {list : List α} {results : List β} :
    list.mapM f = .ok results ↔ List.Forall₂ (fun a b => f a = .ok b) list results := by
  induction list generalizing results with
  | nil =>
    rw [List.mapM_nil, List.forall₂_nil_left_iff]
    exact ⟨fun h => (Except.ok.inj h).symm, fun h => congrArg Except.ok h.symm⟩
  | cons a rest ih =>
    rw [List.mapM_cons, List.forall₂_cons_left_iff, bind_eq_ok]
    constructor
    · rintro ⟨b, first, h⟩
      obtain ⟨others, restOk, h⟩ := bind_eq_ok.1 h
      exact ⟨b, others, first, ih.1 restOk, (Except.ok.inj h).symm⟩
    · rintro ⟨b, others, first, restOk, rfl⟩
      exact ⟨b, first, bind_eq_ok.2 ⟨others, ih.2 restOk, rfl⟩⟩

/-- The results of a step for each item are those of the items. -/
lemma mem_of_mapM_eq_ok {f : α → Except ε β} {list : List α} {results : List β} (h : list.mapM f = .ok results)
    {b : β} : b ∈ results ↔ ∃ a ∈ list, f a = .ok b := by
  have each := mapM_eq_ok.1 h
  clear h
  induction each with
  | nil => simp
  | cons first _ ih => simp [ih, first, eq_comm]

/-- What is in the first of two related lists is related to something in the other. -/
lemma exists_of_mem_forall₂ {R : α → β → Prop} {list : List α} {list' : List β}
    (related : List.Forall₂ R list list') {a : α} (listed : a ∈ list) : ∃ b ∈ list', R a b := by
  induction related with
  | nil => cases listed
  | cons first _ ih =>
    rcases List.mem_cons.1 listed with rfl | listed
    · exact ⟨_, List.mem_cons_self, first⟩
    · obtain ⟨b, own, same⟩ := ih listed
      exact ⟨b, List.mem_cons_of_mem _ own, same⟩

/-- When a step succeeds for all items it succeeds for each. -/
lemma exists_of_mapM_eq_ok {f : α → Except ε β} {list : List α} {results : List β} (h : list.mapM f = .ok results)
    {a : α} (listed : a ∈ list) : ∃ b ∈ results, f a = .ok b :=
  exists_of_mem_forall₂ (mapM_eq_ok.1 h) listed

/-- A step that succeeds for each item of a list succeeds for all of them. -/
lemma exists_mapM_eq_ok {f : α → Except ε β} {list : List α} (each : ∀ a ∈ list, ∃ b, f a = .ok b) :
    ∃ results, list.mapM f = .ok results := by
  induction list with
  | nil => exact ⟨[], rfl⟩
  | cons a rest ih =>
    obtain ⟨first, others⟩ := List.forall_mem_cons.1 each
    obtain ⟨b, first⟩ := first
    obtain ⟨results, others⟩ := ih others
    refine ⟨b :: results, ?_⟩
    rw [List.mapM_cons, first, others]
    rfl

/-- A step fails when it does not succeed. -/
lemma exists_eq_error_iff {x : Except ε α} : (∃ e, x = .error e) ↔ ¬ ∃ a, x = .ok a := by
  cases x with
  | error e => exact ⟨fun _ => nofun, fun _ => ⟨e, rfl⟩⟩
  | ok a => exact ⟨nofun, fun h => absurd ⟨a, rfl⟩ h⟩

lemma map_eq_error {x : Except ε α} {f : α → β} {e : ε} : f <$> x = .error e ↔ x = .error e := by
  cases x with
  | error e' => exact ⟨fun h => congrArg Except.error (Except.error.inj h), fun h => congrArg Except.error (Except.error.inj h)⟩
  | ok a => exact ⟨nofun, nofun⟩

/-- What is only made into another value fails as it did. -/
lemma bind_ok_eq_error {x : Except ε α} {f : α → β} {e : ε} : (x >>= fun a => .ok (f a)) = .error e ↔ x = .error e := by
  cases x with
  | error e' => exact ⟨fun h => congrArg Except.error (Except.error.inj h), fun h => congrArg Except.error (Except.error.inj h)⟩
  | ok a => exact ⟨nofun, nofun⟩

/-- A step for each item of a list fails as it does for one of them. -/
lemma exists_of_mapM_eq_error {f : α → Except ε β} {list : List α} {e : ε} (h : list.mapM f = .error e) :
    ∃ a ∈ list, f a = .error e := by
  induction list with
  | nil => cases h
  | cons a rest ih =>
    rw [List.mapM_cons] at h
    cases first : f a with
    | error e' =>
      rw [first] at h
      cases h
      exact ⟨a, List.mem_cons_self, first⟩
    | ok b =>
      rw [first] at h
      cases others : rest.mapM f with
      | error e' =>
        rw [others] at h
        cases h
        obtain ⟨a', listed, own⟩ := ih others
        exact ⟨a', List.mem_cons_of_mem _ listed, own⟩
      | ok results =>
        rw [others] at h
        cases h

/-- A step for each item of a list fails exactly when it fails for one of them. -/
lemma exists_mapM_eq_error_iff {f : α → Except ε β} {list : List α} :
    (∃ e, list.mapM f = .error e) ↔ ∃ a ∈ list, ∃ e, f a = .error e := by
  constructor
  · rintro ⟨e, failed⟩
    obtain ⟨a, listed, own⟩ := exists_of_mapM_eq_error failed
    exact ⟨a, listed, e, own⟩
  · rintro ⟨a, listed, e, own⟩
    refine exists_eq_error_iff.2 fun ⟨results, ok⟩ => ?_
    obtain ⟨b, -, fine⟩ := exists_of_mapM_eq_ok ok listed
    rw [own] at fine
    cases fine

/-- Whether all failures of a step are of some kind. -/
def FailsAs (P : ε → Prop) (x : Except ε α) : Prop := ∀ e, x = .error e → P e

namespace FailsAs

variable {P : ε → Prop} {x : Except ε α}

lemma ok (a : α) : FailsAs P (.ok a : Except ε α) := fun _ h => nomatch h

lemma map (h : FailsAs P x) (f : α → β) : FailsAs P (f <$> x) := fun e failed => h e (map_eq_error.1 failed)

/-- Two steps in a row fail as one of them does. -/
lemma bind {f : α → Except ε β} (h : FailsAs P x) (next : ∀ a, FailsAs P (f a)) : FailsAs P (x >>= f) := by
  cases x with
  | error e => exact fun e' failed => h e' (congrArg Except.error (Except.error.inj failed))
  | ok a => exact next a

lemma foldlM {f : β → α → Except ε β} (each : ∀ b a, FailsAs P (f b a)) (list : List α) (b : β) :
    FailsAs P (list.foldlM f b) := by
  induction list generalizing b with
  | nil => exact ok b
  | cons a rest ih =>
    rw [List.foldlM_cons]
    exact (each b a).bind ih

end FailsAs

/-! ## Traced computations -/

namespace Traced

/-- Whether a computation comes to a value for some readings of the clock. -/
def ComesTo (x : Traced ε α) (a : α) : Prop := ∃ clock, (x.run clock).result = .ok a

variable {x : Traced ε α} {f : α → Traced ε β} {a : α} {b : β}

/-- What a run comes to. -/
lemma comesTo_of_run {clock : List Float} (h : (x.run clock).result = .ok a) : x.ComesTo a := ⟨clock, h⟩

/-- A result without a trace comes to its value. -/
@[simp] lemma comesTo_result {r : Except ε α} : (result r).ComesTo a ↔ r = .ok a :=
  ⟨fun ⟨_, h⟩ => h, fun h => ⟨[], h⟩⟩

/-- A value comes to itself. -/
@[simp] lemma comesTo_pure {a' : α} : (pure a' : Traced ε α).ComesTo a ↔ a' = a :=
  ⟨fun ⟨_, h⟩ => Except.ok.inj h, fun h => ⟨[], congrArg Except.ok h⟩⟩

/-- A failure comes to nothing. -/
@[simp] lemma not_comesTo_fail {e : ε} : ¬ (fail e : Traced ε α).ComesTo a :=
  fun ⟨_, h⟩ => nomatch h

/-- The run of two steps in a row, where the second reads what is left of the clock. -/
lemma run_bind (clock : List Float) :
    ((x >>= f).run clock).result =
      (x.run clock).result >>= fun a => ((f a).run (x.run clock).clock).result := by
  show (Traced.bind x f clock).result = _
  unfold Traced.bind run
  cases h : (x clock).result <;> simp only [h] <;> rfl

/-- What follows a step counts only for the values that the step comes to. -/
lemma bind_congr {g : α → Traced ε β} (same : ∀ a, x.ComesTo a → f a = g a) : x >>= f = x >>= g := by
  funext clock
  show Traced.bind x f clock = Traced.bind x g clock
  unfold Traced.bind
  cases result : (x clock).result with
  | error e => simp only [result]
  | ok a => simp only [result, same a ⟨clock, result⟩]

/-- The runs of two steps in a row that come to a value. -/
lemma run_bind_eq_ok {clock : List Float} :
    ((x >>= f).run clock).result = .ok b ↔
      ∃ a, (x.run clock).result = .ok a ∧ ((f a).run (x.run clock).clock).result = .ok b := by
  rw [run_bind, bind_eq_ok]

lemma run_bind_eq_error {clock : List Float} {e : ε} :
    ((x >>= f).run clock).result = .error e ↔ (x.run clock).result = .error e ∨
      ∃ a, (x.run clock).result = .ok a ∧ ((f a).run (x.run clock).clock).result = .error e := by
  rw [run_bind, bind_eq_error]

namespace ComesTo

/-- Two steps in a row that come to a value both come to one. -/
lemma bind (h : (x >>= f).ComesTo b) : ∃ a, x.ComesTo a ∧ (f a).ComesTo b := by
  obtain ⟨clock, h⟩ := h
  obtain ⟨a, first, second⟩ := run_bind_eq_ok.1 h
  exact ⟨a, ⟨_, first⟩, ⟨_, second⟩⟩

/-- A step that is taken on a condition only leaves what follows. -/
lemma of_ite_bind {c : Prop} [Decidable c] {y : Traced ε Unit} {f : Unit → Traced ε α}
    (h : (if c then y >>= f else f ()).ComesTo a) : (f ()).ComesTo a := by
  split at h
  · obtain ⟨_, -, h⟩ := h.bind
    exact h
  · exact h

/-- After a step that fails with a value in its place comes what follows for its result. -/
lemma attempt_bind {f : Except ε α → Traced ε β} (h : (attempt x >>= f).ComesTo b) :
    ∃ clock, (f (x.run clock).result).ComesTo b := by
  obtain ⟨clock, h⟩ := h
  exact ⟨clock, _, h⟩

/-- What a stage comes to its body comes to. -/
lemma stage {names : FailureNames ε} {wikiId name : String} (h : (Traced.stage names wikiId name x).ComesTo a) :
    x.ComesTo a := by
  obtain ⟨started, -, h⟩ := h.bind
  obtain ⟨clock, h⟩ := h.attempt_bind
  -- the lines that are left at the end depend on the result of the body, and the result is handed on
  cases result : (x.run clock).result with
  | ok a' =>
    rw [result] at h
    obtain ⟨_, -, h⟩ := h.bind
    obtain ⟨_, -, h⟩ := h.bind
    obtain ⟨_, -, h⟩ := h.bind
    rw [comesTo_pure.1 h] at result
    exact ⟨clock, result⟩
  | error e =>
    rw [result] at h
    simp only at h
    split at h
    · exact absurd h not_comesTo_fail
    · obtain ⟨_, -, h⟩ := h.bind
      obtain ⟨_, -, h⟩ := h.bind
      obtain ⟨_, -, h⟩ := h.bind
      exact absurd h not_comesTo_fail

/-- What a timed report comes to its body comes to. -/
lemma timed {names : FailureNames ε} {wikiId : String} {rows : α → Option Json}
    (h : (Traced.timed names wikiId rows x).ComesTo a) : x.ComesTo a := by
  obtain ⟨started, -, h⟩ := h.bind
  obtain ⟨clock, h⟩ := h.attempt_bind
  cases result : (x.run clock).result with
  | ok a' =>
    rw [result] at h
    obtain ⟨_, -, h⟩ := h.bind
    obtain ⟨_, -, h⟩ := h.bind
    rw [comesTo_pure.1 h] at result
    exact ⟨clock, result⟩
  | error e =>
    rw [result] at h
    obtain ⟨_, -, h⟩ := h.bind
    obtain ⟨_, -, h⟩ := h.bind
    exact absurd h not_comesTo_fail

end ComesTo

end Traced

end ActivityReport
