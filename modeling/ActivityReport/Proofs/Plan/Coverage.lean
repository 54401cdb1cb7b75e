import ActivityReport.Proofs.Trace.Outcome
import ActivityReport.Query.Basic

/-!
# Needs and references

What a request is planned to read and what its query refers to. A column is walked once for its needs
and once for its expression, a condition once for its needs and once for its predicate; here both walks
are shown to meet the same keys. The proofs go from single values over a span of the window up to
columns and conditions, one case for each kind.
-/

namespace ActivityReport

variable {w : Window} {k : SnapshotKey}

/-! ## Plans -/

namespace JoinPlan

variable {needs : List Need}

/-- The snapshots of a plan are the needed ones and those of the needed levels. -/
lemma mem_snapshots_ofNeeds :
    k ∈ (ofNeeds needs).snapshots ↔ .snapshot k ∈ needs ∨ ∃ l, .level l ∈ needs ∧ l.key = k := by
  rw [ofNeeds, mem_firstSeen, List.mem_filterMap]
  constructor
  · rintro ⟨need, listed, found⟩
    cases need with
    | snapshot key =>
      cases found
      exact Or.inl listed
    | range key => cases found
    | level l => exact Or.inr ⟨l, listed, Option.some.inj found⟩
  · rintro (listed | ⟨l, listed, rfl⟩)
    · exact ⟨_, listed, rfl⟩
    · exact ⟨_, listed, rfl⟩

/-- The ranges of a plan are the needed ones. -/
lemma mem_ranges_ofNeeds {key : RangeKey} : key ∈ (ofNeeds needs).ranges ↔ .range key ∈ needs := by
  rw [ofNeeds, mem_firstSeen, List.mem_filterMap]
  constructor
  · rintro ⟨need, listed, found⟩
    cases need with
    | range key =>
      cases found
      exact listed
    | snapshot key => cases found
    | level l => cases found
  · exact fun listed => ⟨_, listed, rfl⟩

/-- The level snapshots of a plan are the needed ones. -/
lemma mem_levels_ofNeeds {l : LevelSnapshot} : l ∈ (ofNeeds needs).levels ↔ .level l ∈ needs := by
  rw [ofNeeds, mem_firstSeen, List.mem_filterMap]
  constructor
  · rintro ⟨need, listed, found⟩
    cases need with
    | level l =>
      cases found
      exact listed
    | snapshot key => cases found
    | range key => cases found
  · exact fun listed => ⟨_, listed, rfl⟩

/-- A plan lists everything once. -/
lemma nodup_ofNeeds (needs : List Need) :
    (ofNeeds needs).snapshots.Nodup ∧ (ofNeeds needs).ranges.Nodup ∧ (ofNeeds needs).levels.Nodup :=
  ⟨nodup_firstSeen _, nodup_firstSeen _, nodup_firstSeen _⟩

/-- A plan reads the snapshot of each of its levels. -/
lemma key_mem_ofNeeds {l : LevelSnapshot} (h : l ∈ (ofNeeds needs).levels) :
    l.key ∈ (ofNeeds needs).snapshots :=
  mem_snapshots_ofNeeds.2 (Or.inr ⟨l, mem_levels_ofNeeds.1 h, rfl⟩)

end JoinPlan

/-! ## Sums -/

namespace Sum

/-- A chain of additions reads what its parts read. -/
lemma mem_snapshots_foldl_plus (rest : List Sum) (a : Sum) :
    k ∈ (rest.foldl plus a).snapshots ↔ k ∈ a.snapshots ∨ ∃ b ∈ rest, k ∈ b.snapshots := by
  induction rest generalizing a with
  | nil => simp
  | cons b rest ih =>
    rw [List.foldl_cons, ih]
    simp [snapshots, or_assoc]

/-- The sum of some sums reads what they read. -/
lemma mem_snapshots_ofList {list : List Sum} : k ∈ (ofList list).snapshots ↔ ∃ s ∈ list, k ∈ s.snapshots := by
  cases list with
  | nil => simp [ofList, snapshots]
  | cons a rest => simp [ofList, mem_snapshots_foldl_plus]

end Sum

namespace Window

variable {d : Dimension} {span : Span} {counter : Counter} {scope : Scope}

/-- The total before the first day reads what is needed before it. -/
@[simp] lemma mem_snapshots_atStart :
    k ∈ (w.atStart d counter scope).snapshots ↔ .snapshot k ∈ w.needBefore d scope := by
  unfold needBefore atStart
  cases w.start <;> simp [Sum.snapshots]

/-- The total at the last day reads what is needed there. -/
@[simp] lemma mem_snapshots_atFinish :
    k ∈ (w.atFinish d counter scope).snapshots ↔ .snapshot k = w.needFinish d scope := by
  simp [atFinish, needFinish, Sum.snapshots]

/-- A value over a span reads what is needed over it. -/
@[simp] lemma mem_snapshots_overSpan :
    k ∈ (w.overSpan d span counter scope).snapshots ↔ .snapshot k ∈ w.needSpan d span scope := by
  cases span with
  | inPeriod => simp [needSpan, overSpan, Sum.snapshots, or_comm]
  | sinceRegistration => simp [needSpan, overSpan]

/-- A sum over scopes reads what is needed for each of them. -/
@[simp] lemma mem_snapshots_overScopes {scopes : List Scope} :
    k ∈ (w.overScopes d span counter scopes).snapshots ↔
      ∃ scope ∈ scopes, .snapshot k ∈ w.needSpan d span scope := by
  simp [overScopes, Sum.mem_snapshots_ofList]

/-- Values over a span need no range. -/
@[simp] lemma range_not_mem_needSpan {key : RangeKey} :
    .range key ∉ w.needSpan d span scope := by
  cases span <;> cases h : w.start <;> simp [needSpan, needBefore, needFinish, h]

end Window

/-! ## Columns -/

namespace Column

/-- Whether a column looks for milestones but has none to look for; it shows nothing. -/
def IsBlank (c : Column) : Prop := (∃ counter, c.type = .milestone counter) ∧ c.milestones = []

variable {c : Column}

/-- A column with an expression needs the snapshots that it reads; a blank one needs more. -/
lemma snapshot_mem_needs :
    .snapshot k ∈ c.needs w ↔
      (∃ e, c.expression? w = some e ∧ k ∈ e.snapshots) ∨
        c.IsBlank ∧ .snapshot k ∈ w.needSpan .actor .inPeriod .whole := by
  cases type : c.type with
  | rowNumber | userName | userGroups | registrationDate | daysSinceRegistration =>
    simp [needs, expression?, IsBlank, type, Expression.snapshots]
  | count counter span ratio form =>
    cases ratio <;> simp [needs, expression?, IsBlank, type, Expression.snapshots, and_or_left, exists_or]
  | logDate edge => simp [needs, expression?, IsBlank, type, Expression.snapshots]
  | activityDate activity edge => simp [needs, expression?, IsBlank, type, Expression.snapshots]
  | activityDays activity => simp [needs, expression?, IsBlank, type, Expression.snapshots]
  | averagePerDay counter span => simp [needs, expression?, IsBlank, type, Expression.snapshots]
  | level moment =>
    cases moment <;> simp [needs, expression?, IsBlank, type, Window.needLevelBefore, Window.needLevelFinish]
  | milestone counter =>
    by_cases blank : c.milestones = []
    · simp [needs, expression?, IsBlank, type, blank, Expression.snapshots]
    · simp [needs, expression?, IsBlank, type, blank, Expression.snapshots, Window.needSpan, or_comm]

/-- A column needs the ranges that its expression reads. -/
lemma range_mem_needs {key : RangeKey} :
    .range key ∈ c.needs w ↔ ∃ e, c.expression? w = some e ∧ key ∈ e.ranges := by
  cases type : c.type with
  | rowNumber | userName | userGroups | registrationDate | daysSinceRegistration =>
    simp [needs, expression?, type, Expression.ranges]
  | count counter span ratio form =>
    cases ratio <;> simp [needs, expression?, type, Expression.ranges]
  | logDate edge => simp [needs, expression?, type, Expression.ranges]
  | activityDate activity edge => simp [needs, expression?, type, Expression.ranges]
  | activityDays activity => simp [needs, expression?, type, Expression.ranges]
  | averagePerDay counter span => simp [needs, expression?, type, Expression.ranges]
  | level moment =>
    cases moment <;> simp [needs, expression?, type, Window.needLevelBefore, Window.needLevelFinish]
  | milestone counter =>
    by_cases blank : c.milestones = [] <;> simp [needs, expression?, type, blank, Expression.ranges]

/-- Every range that a column needs goes up to the last day. -/
lemma date_of_range_mem_needs {key : RangeKey} (needed : .range key ∈ c.needs w) : key.date = w.finish := by
  obtain ⟨e, own, reads⟩ := range_mem_needs.1 needed
  cases type : c.type with
  | logDate edge =>
    simp only [expression?, type, Option.some.injEq] at own
    subst own
    obtain ⟨f, -, rfl⟩ := List.mem_map.1 reads
    rfl
  | activityDate activity edge =>
    simp only [expression?, type, Option.some.injEq] at own
    subst own
    rw [List.mem_singleton.1 reads]
  | activityDays activity =>
    simp only [expression?, type, Option.some.injEq] at own
    subst own
    rw [List.mem_singleton.1 reads]
  | count counter span ratio form => cases ratio <;> simp [needs, type] at needed
  | level moment =>
    cases moment <;> simp [needs, type, Window.needLevelBefore, Window.needLevelFinish] at needed
  | _ => simp [needs, type] at needed

/-- The predicate of a column reads what the column's expression reads. -/
lemma mem_predicates {p : Predicate} :
    p ∈ c.predicates w ↔ c.moreThanZero = true ∧ ∃ e, c.expression? w = some e ∧ p = .positive e := by
  cases h : c.moreThanZero <;> simp [predicates, h, eq_comm]

end Column

/-! ## Conditions -/

/-- A sum over scopes that is built adds up its parts. -/
lemma eq_of_sumOverScopes {value : Scope → Sum} {scopes : List Scope} {sum : Sum}
    (h : sumOverScopes value scopes = .ok sum) : sum = .ofList (scopes.map value) := by
  unfold sumOverScopes at h
  split at h
  · cases h
  · exact (Except.ok.inj h).symm

namespace Threshold

variable {t : Threshold} {predicate : Option Predicate}

/-- A bound on a total is built at the day that its epoch names. -/
lemma predicate?_of_total (total : t.period = none) (built : t.predicate? w = .ok predicate) :
    ∃ day, w.resolve t.epoch = .ok day ∧ predicate = day.map fun day =>
      .bound t.comparison (.ofList (t.scopes.toList.map fun scope => .total ⟨.actor, .finish, day, scope⟩ t.counter))
        t.count := by
  simp only [predicate?, total] at built
  obtain ⟨day, resolved, built⟩ := bind_eq_ok.1 built
  refine ⟨day, mapError_eq_ok.1 resolved, ?_⟩
  cases day with
  | none => exact (Except.ok.inj built).symm
  | some day =>
    obtain ⟨sum, summed, built⟩ := bind_eq_ok.1 built
    rw [eq_of_sumOverScopes summed] at built
    exact (Except.ok.inj built).symm

/-- A bound on a period is built at the two days that its epoch names. -/
lemma predicate?_of_period {period : Nat} (inPeriod : t.period = some period)
    (built : t.predicate? w = .ok predicate) :
    ∃ days, w.bounds period t.epoch = .ok days ∧ predicate = days.map fun days =>
      .bound t.comparison (.ofList (t.scopes.toList.map fun scope =>
        .minus (.total ⟨.actor, .finish, days.2, scope⟩ t.counter)
          (.total ⟨.actor, .before, days.1, scope⟩ t.counter))) t.count := by
  simp only [predicate?, inPeriod] at built
  obtain ⟨days, resolved, built⟩ := bind_eq_ok.1 built
  refine ⟨days, mapError_eq_ok.1 resolved, ?_⟩
  cases days with
  | none => exact (Except.ok.inj built).symm
  | some days =>
    obtain ⟨sum, summed, built⟩ := bind_eq_ok.1 built
    rw [eq_of_sumOverScopes summed] at built
    exact (Except.ok.inj built).symm

variable {list : List Need}

/-- A threshold needs the snapshots that its predicate reads. -/
lemma snapshot_mem_needs (needed : t.needs w = .ok list) (built : t.predicate? w = .ok predicate) :
    .snapshot k ∈ list ↔ ∃ p, predicate = some p ∧ k ∈ p.snapshots := by
  cases form : t.period with
  | none =>
    obtain ⟨day, resolved, rfl⟩ := predicate?_of_total form built
    simp only [needs, form, resolved] at needed
    cases needed
    cases day <;> simp [needDay, Predicate.snapshots, Sum.mem_snapshots_ofList, Sum.snapshots]
  | some period =>
    obtain ⟨days, resolved, rfl⟩ := predicate?_of_period form built
    simp only [needs, form, resolved] at needed
    cases needed
    cases days <;> simp [needBounds, Predicate.snapshots, Sum.mem_snapshots_ofList, Sum.snapshots, or_comm]

/-- A threshold needs nothing but snapshots of the actor. -/
lemma isSnapshot_of_mem_needs (needed : t.needs w = .ok list) {need : Need} (listed : need ∈ list) :
    ∃ key, need = .snapshot key ∧ key.dimension = .actor := by
  unfold needs at needed
  split at needed
  · obtain ⟨days, -, needed⟩ := bind_eq_ok.1 needed
    cases needed
    obtain ⟨scope, -, listed⟩ := List.mem_flatMap.1 listed
    cases days with
    | none => cases listed
    | some days =>
      simp only [needBounds, List.mem_cons, List.not_mem_nil, or_false] at listed
      rcases listed with rfl | rfl <;> exact ⟨_, rfl, rfl⟩
  · obtain ⟨day, -, needed⟩ := bind_eq_ok.1 needed
    cases needed
    obtain ⟨scope, -, listed⟩ := List.mem_flatMap.1 listed
    cases day with
    | none => cases listed
    | some day =>
      rw [List.mem_singleton.1 listed]
      exact ⟨_, rfl, rfl⟩

end Threshold

namespace Condition

variable {c : Condition} {list : List Need} {predicate : Option Predicate}

/-- A condition needs the snapshots that its predicate reads. -/
lemma snapshot_mem_needs (needed : c.needs w = .ok list) (built : c.predicate? w = .ok predicate) :
    .snapshot k ∈ list ↔ ∃ p, predicate = some p ∧ k ∈ p.snapshots := by
  cases c with
  | threshold t => exact t.snapshot_mem_needs needed built
  | milestone counter milestones =>
    cases milestones with
    | nil =>
      cases needed
      cases built
      simp
    | cons m rest =>
      cases needed
      cases built
      simp [Predicate.snapshots, Window.needSpan, or_comm]
  | level changed ids =>
    cases needed
    cases built
    cases changed <;> simp [Window.needLevelFinish, Window.needLevelBefore]
  | registrationStatus statuses =>
    cases needed
    simp only [Condition.predicate?] at built
    split at built
    · obtain ⟨-, -, built⟩ := bind_eq_ok.1 built
      cases built
      simp [Predicate.snapshots]
    · cases built
      simp [Predicate.snapshots]
  | registrationAge comparison days =>
    cases needed
    obtain ⟨-, -, built⟩ := bind_eq_ok.1 built
    cases built
    simp [Predicate.snapshots]
  | inGroups names | notInGroups names | hasTemplates names | hasNoTemplates names =>
    cases needed
    cases built
    simp [Predicate.snapshots]

/-- A condition needs no range. -/
lemma range_not_mem_needs {key : RangeKey} (needed : c.needs w = .ok list) : .range key ∉ list := by
  cases c with
  | threshold t =>
    intro listed
    obtain ⟨_, same, -⟩ := t.isSnapshot_of_mem_needs needed listed
    cases same
  | milestone counter milestones =>
    cases milestones with
    | nil => cases needed; simp
    | cons m rest => cases needed; exact Window.range_not_mem_needSpan
  | level changed ids =>
    cases needed
    cases changed <;> simp [Window.needLevelFinish, Window.needLevelBefore]
  | _ => cases needed; simp

/-- The predicate of a condition reads no range. -/
lemma range_not_mem_predicate {p : Predicate} {key : RangeKey} (built : c.predicate? w = .ok (some p)) :
    key ∉ p.ranges := by
  cases c with
  | threshold t =>
    cases form : t.period with
    | none =>
      obtain ⟨day, -, isBound⟩ := Threshold.predicate?_of_total form built
      obtain ⟨day, -, rfl⟩ := Option.map_eq_some_iff.1 isBound.symm
      simp [Predicate.ranges]
    | some period =>
      obtain ⟨days, -, isBound⟩ := Threshold.predicate?_of_period form built
      obtain ⟨days, -, rfl⟩ := Option.map_eq_some_iff.1 isBound.symm
      simp [Predicate.ranges]
  | milestone counter milestones => cases milestones <;> cases built; simp [Predicate.ranges]
  | level changed ids => cases built
  | registrationStatus statuses =>
    simp only [Condition.predicate?] at built
    split at built
    · obtain ⟨-, -, built⟩ := bind_eq_ok.1 built
      cases built
      simp [Predicate.ranges]
    · cases built
      simp [Predicate.ranges]
  | registrationAge comparison days =>
    obtain ⟨-, -, built⟩ := bind_eq_ok.1 built
    cases built
    simp [Predicate.ranges]
  | inGroups names | notInGroups names | hasTemplates names | hasNoTemplates names =>
    cases built
    simp [Predicate.ranges]

end Condition

/-! ## Requests -/

/-- The plan of a request meets the needs of its columns and those of its conditions. -/
lemma JoinPlan.ofRequest_eq_ok {r : Request} {p : JoinPlan} :
    ofRequest r = .ok p ↔ ∃ required, r.conditions.mapM (·.needs r.window) = .ok required ∧
      p = ofNeeds (r.columns.flatMap (·.needs r.window) ++ required.flatten) := by
  rw [ofRequest, map_eq_ok]
  unfold Request.needs
  constructor
  · rintro ⟨needs, all, rfl⟩
    obtain ⟨required, needed, ok⟩ := bind_eq_ok.1 all
    exact ⟨required, needed, congrArg ofNeeds (Except.ok.inj ok).symm⟩
  · rintro ⟨required, needed, rfl⟩
    exact ⟨_, bind_eq_ok.2 ⟨required, needed, rfl⟩, rfl⟩

/-- Every range that is planned for a request goes up to its last day. -/
lemma JoinPlan.date_of_mem_ranges {r : Request} {p : JoinPlan} (planned : ofRequest r = .ok p) {key : RangeKey}
    (listed : key ∈ p.ranges) : key.date = r.window.finish := by
  obtain ⟨required, needed, rfl⟩ := ofRequest_eq_ok.1 planned
  rcases List.mem_append.1 (mem_ranges_ofNeeds.1 listed) with column | condition
  · obtain ⟨c, -, own⟩ := List.mem_flatMap.1 column
    exact c.date_of_range_mem_needs own
  · obtain ⟨list, mem, own⟩ := List.mem_flatten.1 condition
    obtain ⟨c, -, ok⟩ := (mem_of_mapM_eq_ok needed).1 mem
    exact absurd own (c.range_not_mem_needs ok)

end ActivityReport
