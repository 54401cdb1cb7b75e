import ActivityReport.Proofs.Query.Tally

/-!
# Shares of the wiki

What actors have done together is no more than what the wiki has. In a store in which the rows of the wiki sum those of
the actors up day by day (`Store.SumsUp`) they do so over any days (`Store.sumOn_eq_sumOfActors`). Where no daily value
is negative, the tallies of different actors then come to no more than that of the wiki (`Store.sum_tally_le`), their
shares to no more than 1 (`sum_exactQuotient?_le_one`), and the numbers that are read for an actor fit a word when those
for the wiki do (`Store.WikiFits.tallyFits`).
-/

namespace ActivityReport

open Number (fitsWord)

/-- The values of the rows with one of some keys, summed up key by key. -/
lemma sum_fibers {ρ κ : Type} [DecidableEq κ] [BEq κ] [LawfulBEq κ] (rows : List ρ) (key : ρ → κ) (value : ρ → Int)
    (keys : Finset κ) :
    ∑ k ∈ keys, ((rows.filter fun row => key row == k).map value).sum =
      ((rows.filter fun row => decide (key row ∈ keys)).map value).sum := by
  induction rows with
  | nil => simp
  | cons row rest ih =>
    have first : ∀ k, (((row :: rest).filter fun row => key row == k).map value).sum =
        (if key row = k then value row else 0) + ((rest.filter fun row => key row == k).map value).sum := by
      intro k
      by_cases same : key row = k <;> simp [same]
    simp_rw [first, Finset.sum_add_distrib, ih, Finset.sum_ite_eq]
    by_cases listed : key row ∈ keys <;> simp [listed]

namespace Store

/-! ## Sums over all actors -/

/-- The sum of a counter over the rows of all actors in a scope that lie on some days. -/
def sumOfActors (s : Store) (scope : Scope) (counter : Counter) (days : Date → Bool) : Int :=
  (((s.rowsOfActors scope).filter fun row => days row.date).map (·.daily counter)).sum

/-- Whether no daily value of a counter is negative. -/
def IsNonNegative (s : Store) (counter : Counter) : Prop := ∀ row ∈ s.counters, 0 ≤ row.daily counter

instance (s : Store) (counter : Counter) : Decidable (s.IsNonNegative counter) :=
  inferInstanceAs (Decidable (∀ row ∈ s.counters, 0 ≤ row.daily counter))

/-- Whether the rows of the wiki sum up those of the actors, day by day, in every scope that the wiki has a table
for. -/
def SumsUp (s : Store) (counter : Counter) : Prop :=
  ∀ scope, scope.tableKind.isSnapshot .wiki = true → ∀ day,
    s.sumOn none scope counter (· == day) = s.sumOfActors scope counter (· == day)

/-- Whether the rows sum up is seen on the days on which there are rows. -/
instance (s : Store) (counter : Counter) : Decidable (s.SumsUp counter) :=
  decidable_of_iff (∀ row ∈ s.counters, row.scope.tableKind.isSnapshot .wiki = true →
      s.sumOn none row.scope counter (· == row.date) = s.sumOfActors row.scope counter (· == row.date)) (by
    refine ⟨fun each scope wiki day => ?_, fun all row _ wiki => all row.scope wiki row.date⟩
    by_cases known : ∃ row ∈ s.counters, row.scope = scope ∧ row.date = day
    · obtain ⟨row, listed, rfl, rfl⟩ := known
      exact each row listed wiki
    · have nothing : ∀ rows : List CounterRow, (∀ row ∈ rows, row ∈ s.counters ∧ row.scope = scope) →
          rows.filter (fun row => row.date == day) = [] := by
        intro rows own
        refine List.filter_eq_nil_iff.2 fun row listed onDay => known ⟨row, (own row listed).1, (own row listed).2, ?_⟩
        exact eq_of_beq onDay
      rw [sumOn, sumOfActors, nothing, nothing]
      · intro row listed
        simp only [rowsOfActors, List.mem_filter, Bool.and_eq_true, beq_iff_eq] at listed
        exact ⟨listed.1, listed.2.2⟩
      · intro row listed
        simp only [rowsOf, List.mem_filter, Bool.and_eq_true, beq_iff_eq] at listed
        exact ⟨listed.1, listed.2.2⟩)

variable {s : Store} {subject : Option Int} {scope : Scope} {counter : Counter} {days days' : Date → Bool}

lemma sum_daily_nonneg (nonNegative : s.IsNonNegative counter) {rows : List CounterRow} (own : rows.Sublist s.counters) :
    0 ≤ (rows.map (·.daily counter)).sum := by
  refine List.sum_nonneg fun value listed => ?_
  obtain ⟨row, mine, rfl⟩ := List.mem_map.1 listed
  exact nonNegative row (own.subset mine)

/-- More rows have no smaller sum. -/
lemma sum_daily_le_of_sublist (nonNegative : s.IsNonNegative counter) {rows all : List CounterRow}
    (some : rows.Sublist all) (own : all.Sublist s.counters) :
    (rows.map (·.daily counter)).sum ≤ (all.map (·.daily counter)).sum := by
  refine (some.map _).sum_le_sum fun value listed => ?_
  obtain ⟨row, mine, rfl⟩ := List.mem_map.1 listed
  exact nonNegative row (own.subset mine)

lemma sumOn_nonneg (nonNegative : s.IsNonNegative counter) : 0 ≤ s.sumOn subject scope counter days :=
  sum_daily_nonneg nonNegative (List.filter_sublist.trans List.filter_sublist)

/-- Over more days a sum is no smaller. -/
lemma sumOn_mono (nonNegative : s.IsNonNegative counter) (more : ∀ day, days day = true → days' day = true) :
    s.sumOn subject scope counter days ≤ s.sumOn subject scope counter days' := by
  refine sum_daily_le_of_sublist nonNegative ?_ (List.filter_sublist.trans List.filter_sublist)
  exact List.monotone_filter_right _ fun row => more row.date

/-- A sum over some days is summed up day by day. -/
lemma sum_daily_eq_sum_days {rows : List CounterRow} (own : rows.Sublist s.counters) (days : Date → Bool) :
    ((rows.filter fun row => days row.date).map (·.daily counter)).sum =
      ∑ day ∈ (s.counters.map CounterRow.date).toFinset.filter (days · = true),
        ((rows.filter fun row => row.date == day).map (·.daily counter)).sum := by
  rw [sum_fibers rows CounterRow.date]
  congr 2
  refine List.filter_congr fun row mine => ?_
  have known : row.date ∈ (s.counters.map CounterRow.date).toFinset :=
    List.mem_toFinset.2 (List.mem_map_of_mem (own.subset mine))
  simp only [Finset.mem_filter, known, true_and, Bool.decide_eq_true]

/-- Where the wiki's rows sum up those of the actors day by day, they do so over any days. -/
lemma sumOn_eq_sumOfActors (sumsUp : s.SumsUp counter) (wiki : scope.tableKind.isSnapshot .wiki = true) :
    s.sumOn none scope counter days = s.sumOfActors scope counter days := by
  have ofWiki : (s.rowsOf none scope).Sublist s.counters := List.filter_sublist
  have ofActors : (s.rowsOfActors scope).Sublist s.counters := List.filter_sublist
  rw [sumOn, sumOfActors, sum_daily_eq_sum_days ofWiki, sum_daily_eq_sum_days ofActors]
  exact Finset.sum_congr rfl fun day _ => sumsUp scope wiki day

/-- Different actors have no more together than all actors. -/
lemma sum_sumOn_le (nonNegative : s.IsNonNegative counter) (scope : Scope) (days : Date → Bool) {ids : List Int}
    (distinct : ids.Nodup) :
    (ids.map fun id => s.sumOn (some id) scope counter days).sum ≤ s.sumOfActors scope counter days := by
  -- the rows in question, from which each actor takes its own
  have own : ∀ subject, s.sumOn subject scope counter days =
      (((s.counters.filter fun row => row.scope == scope && days row.date).filter
        fun row => row.subject == subject).map (·.daily counter)).sum := by
    intro subject
    rw [sumOn, rowsOf, List.filter_filter, List.filter_filter]
    congr 3
    funext row
    rw [Bool.and_comm, Bool.and_assoc]
  have each : (ids.map fun id => s.sumOn (some id) scope counter days).sum =
      ∑ subject ∈ (ids.map some).toFinset, s.sumOn subject scope counter days := by
    rw [List.sum_toFinset _ (distinct.map (Option.some_injective _)), List.map_map]
    rfl
  rw [each]
  simp_rw [own]
  rw [sum_fibers _ CounterRow.subject, sumOfActors, rowsOfActors, List.filter_filter, List.filter_filter]
  refine sum_daily_le_of_sublist nonNegative (List.monotone_filter_right _ fun row listed => ?_) List.filter_sublist
  simp only [List.mem_toFinset, Bool.and_eq_true, decide_eq_true_eq] at listed ⊢
  obtain ⟨mine, inScope, onDay⟩ := listed
  obtain ⟨id, -, isActor⟩ := List.mem_map.1 mine
  exact ⟨onDay, by rw [← isActor]; rfl, inScope⟩

/-- An actor has no more than the wiki. -/
lemma sumOn_le_wiki (nonNegative : s.IsNonNegative counter) (sumsUp : s.SumsUp counter)
    (wiki : scope.tableKind.isSnapshot .wiki = true) (id : Int) :
    s.sumOn (some id) scope counter days ≤ s.sumOn none scope counter days := by
  rw [sumOn_eq_sumOfActors sumsUp wiki]
  have alone := sum_sumOn_le nonNegative scope days (List.nodup_singleton id)
  rwa [List.map_singleton, List.sum_singleton] at alone

/-! ## Tallies -/

variable {w : Window} {span : Span} {scopes : List Scope}

/-- What the wiki has of a counter in some scopes together over a span. -/
def wikiTally (s : Store) (w : Window) (counter : Counter) (span : Span) (scopes : List Scope) : Int :=
  (scopes.map fun scope => s.sumOn none scope counter (w.covers span)).sum

/-- Different actors have no more in some scopes together than the wiki has in them. -/
lemma sum_tally_le (nonNegative : s.IsNonNegative counter) (sumsUp : s.SumsUp counter) (w : Window) (span : Span)
    (wiki : ∀ scope ∈ scopes, scope.tableKind.isSnapshot .wiki = true) {ids : List Int} (distinct : ids.Nodup) :
    (ids.map fun id => s.tally w id ⟨.actor, counter, span, scopes⟩).sum ≤ s.wikiTally w counter span scopes := by
  unfold tally wikiTally
  induction scopes with
  | nil => simp
  | cons scope rest ih =>
    have others := ih fun scope listed => wiki scope (List.mem_cons_of_mem _ listed)
    have here := sum_sumOn_le nonNegative scope (w.covers span) distinct
    rw [← sumOn_eq_sumOfActors sumsUp (wiki scope List.mem_cons_self)] at here
    simp only [List.map_cons, List.sum_cons, List.sum_map_add] at others ⊢
    exact add_le_add here others

/-- An actor has no more in some scopes than the wiki has in them. -/
lemma tally_le_wikiTally (nonNegative : s.IsNonNegative counter) (sumsUp : s.SumsUp counter) (w : Window) (span : Span)
    (wiki : ∀ scope ∈ scopes, scope.tableKind.isSnapshot .wiki = true) (id : Int) :
    s.tally w id ⟨.actor, counter, span, scopes⟩ ≤ s.wikiTally w counter span scopes := by
  have alone := sum_tally_le nonNegative sumsUp w span wiki (List.nodup_singleton id)
  rwa [List.map_singleton, List.sum_singleton] at alone

/-- What a subject has is never negative. -/
lemma tally_nonneg (nonNegative : s.IsNonNegative counter) (d : Dimension) (actorId : Int) :
    0 ≤ s.tally w actorId ⟨d, counter, span, scopes⟩ := by
  refine List.sum_nonneg fun value listed => ?_
  obtain ⟨scope, -, rfl⟩ := List.mem_map.1 listed
  exact sumOn_nonneg nonNegative

/-! ## Numbers that fit -/

lemma fitsWord_of_le {a b : Int} (nonneg : 0 ≤ a) (le : a ≤ b) (fits : fitsWord b = true) : fitsWord a = true := by
  simp only [fitsWord, Bool.and_eq_true, decide_eq_true_eq] at fits ⊢
  omega

/-- Whether what is read of the wiki fits a word: its totals up to the last day in each of some scopes, and what it
has in all of them together over a span. -/
def WikiFits (s : Store) (w : Window) (counter : Counter) (span : Span) (scopes : List Scope) : Prop :=
  (∀ scope ∈ scopes, fitsWord (s.sumOn none scope counter (Boundary.finish.admits w.finish)) = true) ∧
    fitsWord (s.wikiTally w counter span scopes) = true

instance (s : Store) (w : Window) (counter : Counter) (span : Span) (scopes : List Scope) :
    Decidable (s.WikiFits w counter span scopes) := inferInstanceAs (Decidable (_ ∧ _))

/-- The days that a key admits, and those of a span, are days up to the last one. -/
lemma admits_finish_of_mem_keysIn (ordered : ∀ first ∈ w.start, first ≤ w.finish) {m : Measure} {k : SnapshotKey}
    (key : k ∈ m.keysIn w scope) (day : Date) (admitted : k.boundary.admits k.date day = true) :
    Boundary.finish.admits w.finish day = true := by
  rcases List.mem_cons.1 key with rfl | key
  · exact admitted
  · split at key
    · obtain ⟨first, start, rfl⟩ := List.mem_map.1 key
      have le := ordered first (Option.mem_toList.1 start)
      simp only [Boundary.admits, decide_eq_true_eq, Date.le_def, Date.lt_def] at admitted le ⊢
      omega
    · cases key

lemma admits_finish_of_covers (day : Date) (covered : w.covers span day = true) :
    Boundary.finish.admits w.finish day = true := by
  cases span with
  | inPeriod => exact (Bool.and_eq_true_iff.1 covered).1
  | sinceRegistration => exact covered

lemma eq_of_mem_keysIn {m : Measure} {k : SnapshotKey} (key : k ∈ m.keysIn w scope) :
    k.dimension = m.dimension ∧ k.scope = scope := by
  rcases List.mem_cons.1 key with rfl | key
  · exact ⟨rfl, rfl⟩
  · split at key
    · obtain ⟨first, -, rfl⟩ := List.mem_map.1 key
      exact ⟨rfl, rfl⟩
    · cases key

/-- The scopes without log filters and change tags: the whole activity, or namespaces. -/
def AreUnfiltered (scopes : List Scope) : Prop := scopes = [.whole] ∨ ∀ scope ∈ scopes, scope.tableKind = .byNamespace

lemma AreUnfiltered.table_of_mem (unfiltered : AreUnfiltered scopes) (listed : scope ∈ scopes) :
    scope = .whole ∨ scope.tableKind = .byNamespace := by
  rcases unfiltered with rfl | namespaces
  · exact Or.inl (List.mem_singleton.1 listed)
  · exact Or.inr (namespaces scope listed)

/-- Only rows of log filters are lost. -/
lemma AreUnfiltered.loses_eq_false (unfiltered : AreUnfiltered scopes) {d : Dimension} {k : SnapshotKey}
    (key : k ∈ (⟨d, counter, span, scopes⟩ : Measure).keys w) (n : Naming) (actorId : Int) :
    s.loses n.actorTable k actorId = false := by
  obtain ⟨scope, listed, key⟩ := List.mem_flatMap.1 key
  refine Bool.eq_false_iff.2 fun lost => ?_
  obtain ⟨⟨f, logged⟩, -⟩ := logged_of_loses lost
  rw [(eq_of_mem_keysIn key).2] at logged
  subst logged
  rcases unfiltered.table_of_mem listed with whole | table
  · cases whole
  · cases f <;> cases table

/-- Without log filters and change tags what is read is what the store says. -/
lemma AreUnfiltered.readTally_eq_tally (unfiltered : AreUnfiltered scopes)
    (ordered : ∀ first ∈ w.start, first ≤ w.finish) (d : Dimension) (n : Naming) (actorId : Int) :
    s.readTally n.actorTable w actorId ⟨d, counter, span, scopes⟩ = s.tally w actorId ⟨d, counter, span, scopes⟩ :=
  Store.readTally_eq_tally ordered fun _ key => unfiltered.loses_eq_false key n actorId

/-- Where no daily value is negative, what is read for a measure fits a word when its totals up to the last day do, and
what it comes to in all of its scopes together. -/
lemma tallyFits_of_nonNegative (nonNegative : s.IsNonNegative counter) (ordered : ∀ first ∈ w.start, first ≤ w.finish)
    {actorTable : String} {actorId : Int} {d : Dimension}
    (kept : ∀ k ∈ (⟨d, counter, span, scopes⟩ : Measure).keys w, s.loses actorTable k actorId = false)
    (totals : ∀ scope ∈ scopes,
      fitsWord (s.sumOn (subjectFor d actorId) scope counter (Boundary.finish.admits w.finish)) = true)
    (whole : fitsWord (s.tally w actorId ⟨d, counter, span, scopes⟩) = true) :
    s.TallyFits actorTable w actorId ⟨d, counter, span, scopes⟩ := by
  have bounded : ∀ scope ∈ scopes, ∀ days : Date → Bool,
      (∀ day, days day = true → Boundary.finish.admits w.finish day = true) →
        fitsWord (s.sumOn (subjectFor d actorId) scope counter days) = true := by
    intro scope listed days early
    exact fitsWord_of_le (sumOn_nonneg nonNegative) (sumOn_mono nonNegative early) (totals scope listed)
  have keptIn : ∀ scope ∈ scopes, ∀ k ∈ (⟨d, counter, span, scopes⟩ : Measure).keysIn w scope,
      s.loses actorTable k actorId = false :=
    fun scope listed k key => kept k (List.mem_flatMap.2 ⟨scope, listed, key⟩)
  have read : ∀ scope ∈ scopes, s.readIn actorTable w actorId ⟨d, counter, span, scopes⟩ scope =
      s.sumOn (subjectFor d actorId) scope counter (w.covers span) :=
    fun scope listed => readIn_eq_sumOn ordered (keptIn scope listed)
  refine ⟨fun k key => ?_, fun scope listed => ?_, fun first start => ?_⟩
  · obtain ⟨scope, listed, key'⟩ := List.mem_flatMap.1 key
    obtain ⟨dimension, own⟩ := eq_of_mem_keysIn key'
    rw [readTotal, kept k key, if_neg Bool.false_ne_true, dimension, own]
    exact bounded scope listed _ (admits_finish_of_mem_keysIn ordered key')
  · rw [read scope listed]
    exact bounded scope listed _ admits_finish_of_covers
  · -- what is read in the first scopes is no more than in all of them
    have start' := (List.mem_inits _ _).1 start
    rw [List.map_congr_left fun scope listed => read scope (start'.subset listed)]
    have nonneg : ∀ value ∈ scopes.map fun scope => s.sumOn (subjectFor d actorId) scope counter (w.covers span),
        0 ≤ value := by
      intro value listed
      obtain ⟨scope, -, rfl⟩ := List.mem_map.1 listed
      exact sumOn_nonneg nonNegative
    refine fitsWord_of_le (List.sum_nonneg fun value listed => nonneg value ?_) ?_ whole
    · exact (start'.map _).subset listed
    · exact (start'.sublist.map _).sum_le_sum nonneg

/-- What is read for the wiki, or for a subject that has no more than the wiki, fits a word when that of the wiki
does. -/
lemma WikiFits.tallyFits (fits : s.WikiFits w counter span scopes) (nonNegative : s.IsNonNegative counter)
    (ordered : ∀ first ∈ w.start, first ≤ w.finish) {actorTable : String} {actorId : Int} {d : Dimension}
    (kept : ∀ k ∈ (⟨d, counter, span, scopes⟩ : Measure).keys w, s.loses actorTable k actorId = false)
    (le : ∀ scope ∈ scopes, ∀ days,
      s.sumOn (subjectFor d actorId) scope counter days ≤ s.sumOn none scope counter days) :
    s.TallyFits actorTable w actorId ⟨d, counter, span, scopes⟩ := by
  obtain ⟨totals, whole⟩ := fits
  refine tallyFits_of_nonNegative nonNegative ordered kept (fun scope listed => ?_) ?_
  · exact fitsWord_of_le (sumOn_nonneg nonNegative) (le scope listed _) (totals scope listed)
  · exact fitsWord_of_le (tally_nonneg nonNegative d actorId) (List.sum_le_sum fun scope listed => le scope listed _) whole

end Store

/-! ## Shares -/

/-- The exact quotient of two whole numbers; there is none by 0. -/
def exactQuotient? (a b : Int) : Option ℚ := if b = 0 then none else some (a / b)

/-- A share of a whole that is exceeded some times over at most lies between 0 and that number. -/
lemma exactQuotient?_le_times {a b : Int} {times : ℕ} (nonneg : 0 ≤ a) (whole : 0 ≤ b) (le : a ≤ times * b) {q : ℚ}
    (share : exactQuotient? a b = some q) : 0 ≤ q ∧ q ≤ times := by
  unfold exactQuotient? at share
  split at share
  · cases share
  · rename_i notZero
    obtain rfl := Option.some.inj share
    have positive : (0 : ℚ) < b := by exact_mod_cast lt_of_le_of_ne whole (Ne.symm notZero)
    exact ⟨div_nonneg (by exact_mod_cast nonneg) positive.le, (div_le_iff₀ positive).2 (by exact_mod_cast le)⟩

/-- A share of a whole lies between 0 and 1. -/
lemma exactQuotient?_mem_unit {a b : Int} (nonneg : 0 ≤ a) (le : a ≤ b) {q : ℚ} (share : exactQuotient? a b = some q) :
    0 ≤ q ∧ q ≤ 1 := by
  have once : a ≤ (1 : ℕ) * b := by rwa [Nat.cast_one, one_mul]
  exact_mod_cast exactQuotient?_le_times nonneg (nonneg.trans le) once share

/-- The shares of parts that come to no more than the whole come to no more than 1. -/
lemma sum_exactQuotient?_le_one {ι : Type} (parts : List ι) {part : ι → Int} {whole : Int}
    (le : (parts.map part).sum ≤ whole) (nonneg : 0 ≤ whole) :
    (parts.filterMap fun i => exactQuotient? (part i) whole).sum ≤ 1 := by
  unfold exactQuotient?
  split
  · simp
  · rename_i notZero
    have positive : (0 : ℚ) < whole := by exact_mod_cast (by omega : 0 < whole)
    have sum : (parts.map fun i => (part i : ℚ) / whole).sum = ((parts.map part).sum : ℤ) / (whole : ℚ) := by
      simp_rw [div_eq_mul_inv]
      rw [List.sum_map_mul_right]
      push_cast
      rw [List.map_map]
      rfl
    rw [show parts.filterMap (fun i => some ((part i : ℚ) / whole)) = parts.map fun i => (part i : ℚ) / whole from
      congrFun List.filterMap_eq_map parts, sum, div_le_one positive]
    exact_mod_cast le

end ActivityReport
