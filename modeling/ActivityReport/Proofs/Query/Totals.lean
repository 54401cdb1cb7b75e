import ActivityReport.Proofs.Plan.Coverage
import ActivityReport.Proofs.Schema.Stored

/-!
# Totals

The totals that a query refers to: a counter of a snapshot each. For every column and every condition on offer the
table of the snapshot counts the counter, so that no total refers to a column that its table lacks
(`Column.isCounted_of_mem_totals`, `Condition.isCounted_of_mem_totals`).
-/

namespace ActivityReport

namespace Sum

/-- The totals that a sum is put together from. -/
def totals : Sum → List (SnapshotKey × Counter)
  | none => []
  | total key counter => [(key, counter)]
  | plus a b | minus a b => a.totals ++ b.totals

lemma map_fst_totals (s : Sum) : s.totals.map Prod.fst = s.snapshots := by
  induction s with
  | none => rfl
  | total key counter => rfl
  | plus a b iha ihb | minus a b iha ihb => rw [totals, List.map_append, iha, ihb, snapshots]

lemma mem_totals_foldl_plus (rest : List Sum) (a : Sum) {total : SnapshotKey × Counter} :
    total ∈ (rest.foldl plus a).totals ↔ total ∈ a.totals ∨ ∃ b ∈ rest, total ∈ b.totals := by
  induction rest generalizing a with
  | nil => simp
  | cons b rest ih =>
    rw [List.foldl_cons, ih]
    simp [totals, or_assoc]

lemma mem_totals_ofList {list : List Sum} {total : SnapshotKey × Counter} :
    total ∈ (ofList list).totals ↔ ∃ s ∈ list, total ∈ s.totals := by
  cases list with
  | nil => simp [ofList, totals]
  | cons a rest => simp [ofList, mem_totals_foldl_plus]

end Sum

namespace Expression

/-- The totals that an expression reads. -/
def totals : Expression → List (SnapshotKey × Counter)
  | amount s => s.totals
  | share a b | milestone a b _ => a.totals ++ b.totals
  | _ => []

lemma map_fst_totals (e : Expression) : e.totals.map Prod.fst = e.snapshots := by
  cases e with
  | amount s => exact s.map_fst_totals
  | share a b | milestone a b _ => rw [totals, List.map_append, a.map_fst_totals, b.map_fst_totals, snapshots]
  | _ => rfl

end Expression

namespace Predicate

/-- The totals that a predicate reads. -/
def totals : Predicate → List (SnapshotKey × Counter)
  | positive e => e.totals
  | bound _ s _ => s.totals
  | crossed a b _ => a.totals ++ b.totals
  | _ => []

lemma map_fst_totals (p : Predicate) : p.totals.map Prod.fst = p.snapshots := by
  cases p with
  | positive e => exact e.map_fst_totals
  | bound _ s _ => exact s.map_fst_totals
  | crossed a b _ => rw [totals, List.map_append, a.map_fst_totals, b.map_fst_totals, snapshots]
  | _ => rfl

end Predicate

/-! ## Values over a span -/

/-- Whether a total is one of a subject's counter for one of some kinds of table, and is counted there. -/
def SnapshotKey.IsCounted (k : SnapshotKey) (counter : Counter) : Prop :=
  k.scope.tableKind.isSnapshot k.dimension = true ∧ k.Counts counter

lemma ScopeForm.Counts.isCounted {form : ScopeForm} {d : Dimension} {counter : Counter} (counts : form.Counts d counter)
    {k : SnapshotKey} (subject : k.dimension = d) (kind : k.scope.tableKind ∈ form.kinds) : k.IsCounted counter := by
  obtain rfl := subject
  exact counts _ kind

namespace Window

variable {w : Window} {d : Dimension} {span : Span} {counter : Counter} {scope : Scope}
  {total : SnapshotKey × Counter}

lemma eq_of_mem_totals_atFinish (reads : total ∈ (w.atFinish d counter scope).totals) :
    total.1.dimension = d ∧ total.1.scope = scope ∧ total.2 = counter := by
  rw [List.mem_singleton.1 reads]
  exact ⟨rfl, rfl, rfl⟩

lemma eq_of_mem_totals_atStart (reads : total ∈ (w.atStart d counter scope).totals) :
    total.1.dimension = d ∧ total.1.scope = scope ∧ total.2 = counter := by
  unfold atStart at reads
  split at reads
  · rw [List.mem_singleton.1 reads]
    exact ⟨rfl, rfl, rfl⟩
  · cases reads

/-- A value over a span is put together from totals of its subject, scope and counter. -/
lemma eq_of_mem_totals_overSpan (reads : total ∈ (w.overSpan d span counter scope).totals) :
    total.1.dimension = d ∧ total.1.scope = scope ∧ total.2 = counter := by
  cases span with
  | inPeriod =>
    rcases List.mem_append.1 reads with finish | start
    · exact eq_of_mem_totals_atFinish finish
    · exact eq_of_mem_totals_atStart start
  | sinceRegistration => exact eq_of_mem_totals_atFinish reads

/-- A value over a span, summed over scopes of a form for which the counter is counted, reads what is counted. -/
lemma isCounted_of_mem_totals_overScopes {scopes : List Scope} {form : ScopeForm} (counts : form.Counts d counter)
    (kinds : ∀ scope ∈ scopes, scope.tableKind ∈ form.kinds)
    (reads : total ∈ (w.overScopes d span counter scopes).totals) : total.1.IsCounted total.2 := by
  obtain ⟨_, value, reads⟩ := Sum.mem_totals_ofList.1 reads
  obtain ⟨scope, listed, rfl⟩ := List.mem_map.1 value
  obtain ⟨subject, same, rfl⟩ := eq_of_mem_totals_overSpan reads
  exact counts.isCounted subject (same ▸ kinds scope listed)

/-- What is read of an actor's whole activity is counted. -/
lemma isCounted_of_whole (whole : total.1.dimension = .actor ∧ total.1.scope = .whole ∧ total.2 = counter) :
    total.1.IsCounted total.2 := by
  obtain ⟨subject, scope, rfl⟩ := whole
  refine (Counter.counts_whole total.2).isCounted subject ?_
  rw [scope]
  exact List.mem_singleton.2 rfl

end Window

/-! ## Columns and conditions -/

/-- Every total that a column on offer reads is counted. -/
theorem Column.isCounted_of_mem_totals {w : Window} {c : Column} (offered : c.type ∈ ColumnType.all) {e : Expression}
    (own : c.expression? w = some e) {total : SnapshotKey × Counter} (reads : total ∈ e.totals) :
    total.1.IsCounted total.2 := by
  unfold expression? at own
  cases type : c.type with
  | count counter span ratio form =>
    have counted : ColumnType.IsCounted (.count counter span ratio form) := type ▸ ColumnType.isCounted _ offered
    have kinds : ∀ scope ∈ c.scopes, scope.tableKind ∈ form.kinds := fun _ listed => tableKind_mem_kinds type listed
    simp only [type, Option.some.injEq] at own
    cases ratio with
    | none =>
      subst own
      exact Window.isCounted_of_mem_totals_overScopes counted.1 kinds reads
    | wikiTotal =>
      subst own
      rcases List.mem_append.1 reads with actor | wiki
      · exact Window.isCounted_of_mem_totals_overScopes counted.1 kinds actor
      · exact Window.isCounted_of_mem_totals_overScopes (counted.2 rfl) kinds wiki
    | ownTotalEdits =>
      subst own
      rcases List.mem_append.1 reads with actor | edits
      · exact Window.isCounted_of_mem_totals_overScopes counted.1 kinds actor
      · exact Window.isCounted_of_whole (Window.eq_of_mem_totals_overSpan edits)
  | averagePerDay counter span =>
    simp only [type, Option.some.injEq] at own
    subst own
    rcases List.mem_append.1 reads with events | days
    · exact Window.isCounted_of_whole (Window.eq_of_mem_totals_overSpan events)
    · exact Window.isCounted_of_whole (Window.eq_of_mem_totals_overSpan days)
  | milestone counter =>
    simp only [type] at own
    split at own
    · cases own
      cases reads
    · cases own
      rcases List.mem_append.1 reads with start | finish
      · exact Window.isCounted_of_whole (Window.eq_of_mem_totals_atStart start)
      · exact Window.isCounted_of_whole (Window.eq_of_mem_totals_atFinish finish)
  -- the other columns read no total
  | logDate _ | activityDate _ _ | activityDays _ | registrationDate | daysSinceRegistration =>
    simp only [type, Option.some.injEq] at own
    subst own
    cases reads
  | rowNumber | userName | userGroups | level _ =>
    simp only [type] at own
    cases own

/-- Every total that a threshold on offer reads is counted. -/
lemma Threshold.isCounted_of_mem_totals {w : Window} {t : Threshold} (offered : (Condition.threshold t).criterion ∈ Criterion.all)
    {predicate : Predicate} (own : t.predicate? w = .ok (some predicate)) {total : SnapshotKey × Counter}
    (reads : total ∈ predicate.totals) : total.1.IsCounted total.2 := by
  have counts : t.scopes.form.Counts .actor t.counter := Criterion.isCounted _ offered
  have counted : ∀ boundary day, ∀ scope ∈ t.scopes.toList,
      (⟨.actor, boundary, day, scope⟩ : SnapshotKey).IsCounted t.counter :=
    fun _ _ _ listed => counts.isCounted rfl (Scopes.tableKind_mem_kinds listed)
  cases form : t.period with
  | none =>
    obtain ⟨day, -, isBound⟩ := predicate?_of_total form own
    obtain ⟨day, -, rfl⟩ := Option.map_eq_some_iff.1 isBound.symm
    obtain ⟨_, value, reads⟩ := Sum.mem_totals_ofList.1 reads
    obtain ⟨scope, listed, rfl⟩ := List.mem_map.1 value
    rw [List.mem_singleton.1 reads]
    exact counted _ _ scope listed
  | some period =>
    obtain ⟨days, -, isBound⟩ := predicate?_of_period form own
    obtain ⟨days, -, rfl⟩ := Option.map_eq_some_iff.1 isBound.symm
    obtain ⟨_, value, reads⟩ := Sum.mem_totals_ofList.1 reads
    obtain ⟨scope, listed, rfl⟩ := List.mem_map.1 value
    rcases List.mem_append.1 reads with last | first
    · rw [List.mem_singleton.1 last]
      exact counted _ _ scope listed
    · rw [List.mem_singleton.1 first]
      exact counted _ _ scope listed

/-- Every total that a condition on offer reads is counted. -/
theorem Condition.isCounted_of_mem_totals {w : Window} {c : Condition} (offered : c.criterion ∈ Criterion.all)
    {predicate : Predicate} (own : c.predicate? w = .ok (some predicate)) {total : SnapshotKey × Counter}
    (reads : total ∈ predicate.totals) : total.1.IsCounted total.2 := by
  cases c with
  | threshold t => exact t.isCounted_of_mem_totals offered own reads
  | milestone counter milestones =>
    cases milestones with
    | nil => cases own
    | cons m rest =>
      cases own
      rcases List.mem_append.1 reads with start | finish
      · exact Window.isCounted_of_whole (Window.eq_of_mem_totals_atStart start)
      · exact Window.isCounted_of_whole (Window.eq_of_mem_totals_atFinish finish)
  -- the other conditions read no total
  | registrationStatus statuses =>
    simp only [predicate?] at own
    split at own
    · obtain ⟨-, -, own⟩ := bind_eq_ok.1 own
      cases own
      cases reads
    · cases own
      cases reads
  | registrationAge comparison days =>
    obtain ⟨-, -, own⟩ := bind_eq_ok.1 own
    cases own
    cases reads
  | inGroups _ | notInGroups _ | hasTemplates _ | hasNoTemplates _ =>
    cases own
    cases reads
  | level changed ids => cases own

/-- The totals that decide a level are counted. -/
lemma LevelSnapshot.isCounted (l : LevelSnapshot) (counter : Counter) : l.key.IsCounted counter :=
  counter.counts_whole.isCounted rfl (List.mem_singleton.2 rfl)

end ActivityReport
