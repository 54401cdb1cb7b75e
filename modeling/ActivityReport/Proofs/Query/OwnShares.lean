import ActivityReport.Proofs.Query.Shares

/-!
# Shares of one's own edits

What an actor has in some namespaces is no more than all of its edits. In a store in which an actor's rows of the
namespaces have all of its edits between them day by day (`Store.SplitsEdits`) and no row has more reverted edits than
edits (`Store.RevertsEdits`), what an actor has in scopes that are listed once is at most its edits over the same days.
A scope that is listed more than once counts each time (`Store.tally_le_times`), and so the edits are to be taken as
often as a scope is listed.
-/

namespace ActivityReport

open Number (fitsWord)

/-- Values that come to no more than a whole when each is taken once come to no more than some times the whole when none
is taken more often than that. -/
lemma sum_map_le_times {κ : Type} [DecidableEq κ] {value : κ → Int} {whole : Int} {times : ℕ} {keys : List κ}
    (nonneg : ∀ k, 0 ≤ value k) (repeats : ∀ k ∈ keys, keys.count k ≤ times)
    (once : ∑ k ∈ keys.toFinset, value k ≤ whole) : (keys.map value).sum ≤ times * whole := by
  calc (keys.map value).sum
      = ∑ k ∈ keys.toFinset, keys.count k • value k := Finset.sum_list_map_count keys value
    _ ≤ ∑ k ∈ keys.toFinset, times * value k := by
        refine Finset.sum_le_sum fun k listed => ?_
        rw [nsmul_eq_mul]
        have le : (keys.count k : Int) ≤ times := by exact_mod_cast repeats k (List.mem_toFinset.1 listed)
        exact mul_le_mul_of_nonneg_right le (nonneg k)
    _ = times * ∑ k ∈ keys.toFinset, value k := (Finset.mul_sum _ _ _).symm
    _ ≤ times * whole := mul_le_mul_of_nonneg_left once (Int.natCast_nonneg times)

namespace Store

/-! ## Edits by namespace -/

/-- The rows of an actor in all namespaces. -/
def rowsInNamespaces (s : Store) (actorId : Int) : List CounterRow :=
  s.counters.filter fun row => row.subject == some actorId && row.scope.tableKind == .byNamespace

/-- The sum of a counter over the rows of an actor in all namespaces that lie on some days. -/
def sumInNamespaces (s : Store) (actorId : Int) (counter : Counter) (days : Date → Bool) : Int :=
  (((s.rowsInNamespaces actorId).filter fun row => days row.date).map (·.daily counter)).sum

/-- Whether the rows of an actor in all namespaces have its edits between them, day by day. -/
def SplitsEdits (s : Store) : Prop :=
  ∀ actorId day, s.sumInNamespaces actorId .edits (· == day) = s.sumOn (some actorId) .whole .edits (· == day)

/-- Whether the rows of the namespaces have the edits between them is seen on the days on which there are rows. -/
instance (s : Store) : Decidable s.SplitsEdits :=
  decidable_of_iff (∀ row ∈ s.counters, ∀ actorId ∈ row.subject,
      s.sumInNamespaces actorId .edits (· == row.date) = s.sumOn (some actorId) .whole .edits (· == row.date)) (by
    refine ⟨fun each actorId day => ?_, fun all row _ actorId _ => all actorId row.date⟩
    by_cases known : ∃ row ∈ s.counters, row.subject = some actorId ∧ row.date = day
    · obtain ⟨row, listed, own, rfl⟩ := known
      exact each row listed actorId own
    · have nothing : ∀ inScope : CounterRow → Bool,
          (s.counters.filter fun row => row.subject == some actorId && inScope row).filter
            (fun row => row.date == day) = [] := by
        intro inScope
        refine List.filter_eq_nil_iff.2 fun row listed onDay => known ?_
        obtain ⟨mine, kept⟩ := List.mem_filter.1 listed
        exact ⟨row, mine, eq_of_beq (Bool.and_eq_true_iff.1 kept).1, eq_of_beq onDay⟩
      rw [sumInNamespaces, rowsInNamespaces, nothing, sumOn, rowsOf, nothing])

/-- Whether no row of an actor in a namespace or of its whole activity has more reverted edits than edits. -/
def RevertsEdits (s : Store) : Prop :=
  ∀ row ∈ s.counters, row.subject.isSome = true → row.scope = .whole ∨ row.scope.tableKind = .byNamespace →
    row.daily .revertedEdits ≤ row.daily .edits

instance (s : Store) : Decidable s.RevertsEdits :=
  inferInstanceAs (Decidable (∀ row ∈ s.counters, row.subject.isSome = true →
    row.scope = .whole ∨ row.scope.tableKind = .byNamespace → row.daily .revertedEdits ≤ row.daily .edits))

/-- Whether what a store tells of the edits of actors goes together: none of it is negative, the rows of the namespaces
have the edits between them, and none of them has more reverted edits than edits. -/
structure EditsAgree (s : Store) : Prop where
  edits : s.IsNonNegative .edits
  revertedEdits : s.IsNonNegative .revertedEdits
  splits : s.SplitsEdits
  reverts : s.RevertsEdits

variable {s : Store} {actorId : Int} {scope : Scope} {scopes : List Scope} {counter : Counter} {days : Date → Bool}
  {times : ℕ}

lemma EditsAgree.nonNegative (agree : s.EditsAgree) (counts : counter = .edits ∨ counter = .revertedEdits) :
    s.IsNonNegative counter := by
  rcases counts with rfl | rfl
  · exact agree.edits
  · exact agree.revertedEdits

/-- Where the rows of the namespaces have an actor's edits between them day by day, they do so over any days. -/
lemma sumInNamespaces_eq_sumOn (splits : s.SplitsEdits) :
    s.sumInNamespaces actorId .edits days = s.sumOn (some actorId) .whole .edits days := by
  have ofNamespaces : (s.rowsInNamespaces actorId).Sublist s.counters := List.filter_sublist
  have ofWhole : (s.rowsOf (some actorId) .whole).Sublist s.counters := List.filter_sublist
  rw [sumInNamespaces, sumOn, sum_daily_eq_sum_days ofNamespaces, sum_daily_eq_sum_days ofWhole]
  exact Finset.sum_congr rfl fun day _ => splits actorId day

/-- An actor has no more in different namespaces than in all of them. -/
lemma sum_sumOn_le_sumInNamespaces (nonNegative : s.IsNonNegative counter)
    (namespaces : ∀ scope ∈ scopes, scope.tableKind = .byNamespace) :
    ∑ scope ∈ scopes.toFinset, s.sumOn (some actorId) scope counter days ≤ s.sumInNamespaces actorId counter days := by
  -- the rows of the actor on these days, from which each scope takes its own
  have own : ∀ scope, s.sumOn (some actorId) scope counter days =
      (((s.counters.filter fun row => row.subject == some actorId && days row.date).filter
        fun row => row.scope == scope).map (·.daily counter)).sum := by
    intro scope
    rw [sumOn, rowsOf, List.filter_filter, List.filter_filter]
    congr 3
    funext row
    rw [Bool.and_left_comm, Bool.and_comm (days row.date), Bool.and_left_comm]
  simp_rw [own]
  rw [sum_fibers _ CounterRow.scope, sumInNamespaces, rowsInNamespaces, List.filter_filter, List.filter_filter]
  refine sum_daily_le_of_sublist nonNegative (List.monotone_filter_right _ fun row listed => ?_) List.filter_sublist
  simp only [List.mem_toFinset, Bool.and_eq_true, decide_eq_true_eq, beq_iff_eq] at listed ⊢
  obtain ⟨mine, isActor, onDay⟩ := listed
  exact ⟨onDay, isActor, namespaces _ mine⟩

/-- An actor has no more reverted edits than edits. -/
lemma sumOn_revertedEdits_le (reverts : s.RevertsEdits) (table : scope = .whole ∨ scope.tableKind = .byNamespace) :
    s.sumOn (some actorId) scope .revertedEdits days ≤ s.sumOn (some actorId) scope .edits days := by
  refine List.sum_le_sum fun row listed => ?_
  simp only [rowsOf, List.mem_filter, Bool.and_eq_true, beq_iff_eq] at listed
  obtain ⟨⟨mine, isActor, inScope⟩, -⟩ := listed
  refine reverts row mine ?_ (inScope ▸ table)
  rw [isActor]
  rfl

/-- What an actor has of its edits or its reverted edits in some scopes is at most all of its edits, taken as often as a
scope is listed. -/
lemma sum_sumOn_le_times (agree : s.EditsAgree) (counts : counter = .edits ∨ counter = .revertedEdits)
    (unfiltered : AreUnfiltered scopes) (repeats : ∀ scope ∈ scopes, scopes.count scope ≤ times) :
    (scopes.map fun scope => s.sumOn (some actorId) scope counter days).sum ≤
      times * s.sumOn (some actorId) .whole .edits days := by
  have edits : (scopes.map fun scope => s.sumOn (some actorId) scope .edits days).sum ≤
      times * s.sumOn (some actorId) .whole .edits days := by
    apply sum_map_le_times (fun scope => sumOn_nonneg agree.edits) repeats
    rcases unfiltered with rfl | namespaces
    · exact (Finset.sum_singleton _ _).le
    · rw [← sumInNamespaces_eq_sumOn agree.splits]
      exact sum_sumOn_le_sumInNamespaces agree.edits namespaces
  rcases counts with rfl | rfl
  · exact edits
  · refine le_trans (List.sum_le_sum fun scope listed => ?_) edits
    exact sumOn_revertedEdits_le agree.reverts (unfiltered.table_of_mem listed)

/-- In one scope an actor has at most all of its edits. -/
lemma sumOn_le_edits (agree : s.EditsAgree) (counts : counter = .edits ∨ counter = .revertedEdits)
    (table : scope = .whole ∨ scope.tableKind = .byNamespace) :
    s.sumOn (some actorId) scope counter days ≤ s.sumOn (some actorId) .whole .edits days := by
  have unfiltered : AreUnfiltered [scope] := by
    rcases table with rfl | table
    · exact Or.inl rfl
    · exact Or.inr fun other listed => List.mem_singleton.1 listed ▸ table
  have once : ∀ other ∈ [scope], [scope].count other ≤ 1 := fun other _ => List.count_le_length
  have le : ([scope].map fun scope => s.sumOn (some actorId) scope counter days).sum ≤
      (1 : ℕ) * s.sumOn (some actorId) .whole .edits days := sum_sumOn_le_times agree counts unfiltered once
  rwa [List.map_singleton, List.sum_singleton, Nat.cast_one, one_mul] at le

/-! ## Tallies -/

variable {w : Window} {span : Span}

/-- The edits of an actor over a span. -/
lemma tally_edits : s.tally w actorId ⟨.actor, .edits, span, [.whole]⟩ =
    s.sumOn (some actorId) .whole .edits (w.covers span) := List.sum_singleton

/-- Over a span an actor has at most its edits in some scopes, taken as often as a scope is listed. -/
lemma tally_le_times (agree : s.EditsAgree) (counts : counter = .edits ∨ counter = .revertedEdits)
    (unfiltered : AreUnfiltered scopes) (repeats : ∀ scope ∈ scopes, scopes.count scope ≤ times) (w : Window)
    (span : Span) (actorId : Int) :
    s.tally w actorId ⟨.actor, counter, span, scopes⟩ ≤
      times * s.tally w actorId ⟨.actor, .edits, span, [.whole]⟩ := by
  rw [tally_edits]
  exact sum_sumOn_le_times agree counts unfiltered repeats

/-! ## Numbers that fit -/

/-- Whether what is read of an actor for a share of its edits fits a word: its edits up to the last day and, where a
scope may be listed more than once, what it has in all scopes together. -/
def OwnFits (s : Store) (w : Window) (actorId : Int) (times : ℕ) (m : Measure) : Prop :=
  fitsWord (s.sumOn (some actorId) .whole .edits (Boundary.finish.admits w.finish)) = true ∧
    (1 < times → fitsWord (s.tally w actorId m) = true)

instance (s : Store) (w : Window) (actorId : Int) (times : ℕ) (m : Measure) :
    Decidable (s.OwnFits w actorId times m) := inferInstanceAs (Decidable (_ ∧ _))

/-- The edits that a share is taken of fit. -/
lemma OwnFits.tallyFits_edits {m : Measure} (fits : s.OwnFits w actorId times m) (agree : s.EditsAgree)
    (ordered : ∀ first ∈ w.start, first ≤ w.finish) (n : Naming) :
    s.TallyFits n.actorTable w actorId ⟨.actor, .edits, span, [.whole]⟩ := by
  refine tallyFits_of_nonNegative agree.edits ordered (fun k key => ?_) (fun scope listed => ?_) ?_
  · exact AreUnfiltered.loses_eq_false (Or.inl rfl) key n actorId
  · obtain rfl := List.mem_singleton.1 listed
    exact fits.1
  · rw [tally_edits]
    exact fitsWord_of_le (sumOn_nonneg agree.edits) (sumOn_mono agree.edits admits_finish_of_covers) fits.1

/-- What is divided by the edits fits. -/
lemma OwnFits.tallyFits (fits : s.OwnFits w actorId times ⟨.actor, counter, span, scopes⟩) (agree : s.EditsAgree)
    (counts : counter = .edits ∨ counter = .revertedEdits) (unfiltered : AreUnfiltered scopes)
    (repeats : ∀ scope ∈ scopes, scopes.count scope ≤ times) (ordered : ∀ first ∈ w.start, first ≤ w.finish)
    (n : Naming) : s.TallyFits n.actorTable w actorId ⟨.actor, counter, span, scopes⟩ := by
  have nonNegative := agree.nonNegative counts
  refine tallyFits_of_nonNegative nonNegative ordered (fun k key => ?_) (fun scope listed => ?_) ?_
  · exact unfiltered.loses_eq_false key n actorId
  · refine fitsWord_of_le (sumOn_nonneg nonNegative) ?_ fits.1
    exact sumOn_le_edits agree counts (unfiltered.table_of_mem listed)
  · rcases Nat.lt_or_ge 1 times with more | once
    · exact fits.2 more
    · -- with no scope listed twice there are no more than the edits up to the last day
      refine fitsWord_of_le (tally_nonneg nonNegative .actor actorId) ?_ fits.1
      have single : ∀ scope ∈ scopes, scopes.count scope ≤ 1 := fun scope listed => (repeats scope listed).trans once
      have le := tally_le_times agree counts unfiltered single w span actorId
      rw [Nat.cast_one, one_mul, tally_edits] at le
      exact le.trans (sumOn_mono agree.edits admits_finish_of_covers)

end Store

end ActivityReport
