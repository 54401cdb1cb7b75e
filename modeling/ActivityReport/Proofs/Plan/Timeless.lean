import ActivityReport.Proofs.Plan.Coverage
import ActivityReport.Proofs.Trace.Agreement

/-!
# Plans without a first day

What becomes of the plan of a request when the first day of its window is left out. Some of what was read before
that day is no longer read, and nothing else changes (`JoinPlan.ofRequest_withoutStart`), as long as no epoch of
the request is the start of the period. A threshold may go on to read what lies before the same day.
-/

namespace ActivityReport

/-! ## Requests -/

/-- The window without its first day. -/
def Window.withoutStart (w : Window) : Window := ⟨none, w.finish⟩

/-- The request without the first day of its window. -/
def Request.withoutStart (r : Request) : Request where
  wikiId := r.wikiId
  columns := r.columns
  requirements := r.requirements
  orderBy := r.orderBy
  itemCount := r.itemCount
  window := r.window.withoutStart
  skipBots := r.skipBots
  ladder := r.ladder
  ordered := nofun

/-- Whether a condition is not measured at the start of the period. -/
def Condition.AvoidsStart (c : Condition) : Prop := ∀ t, c = .threshold t → t.epoch ≠ some .startOfPeriod

/-! ## Needs -/

/-- Whether a snapshot lies before a day. -/
def SnapshotKey.IsBefore (first : Date) (k : SnapshotKey) : Prop := k.boundary = .before ∧ k.date = first

instance (first : Date) : DecidablePred (SnapshotKey.IsBefore first) :=
  fun k => inferInstanceAs (Decidable (k.boundary = .before ∧ k.date = first))

/-- Whether a need reads what lies before a day. -/
def Need.isBefore (first : Date) (n : Need) : Bool := n.snapshotKey?.any fun k => decide (k.IsBefore first)

/-- Whether some needs are what others are, less some that read what lies before a day: no level is left there,
and a scope is left out altogether only when it tells nothing apart. -/
structure Need.Lessens (first : Date) (needs' needs : List Need) : Prop where
  sublist : needs'.Sublist needs
  others : needs'.filter (!·.isBefore first) = needs.filter (!·.isBefore first)
  levels : ∀ l, .level l ∈ needs' → l ≠ ⟨.before, first⟩
  scopes : ∀ k, .snapshot k ∈ needs → k.scope = .whole ∨ ∃ k', .snapshot k' ∈ needs' ∧ k'.scope = k.scope

namespace Need.Lessens

variable {first : Date} {needs' needs more' more : List Need}

/-- Needs without such a level are not lessened. -/
lemma refl (levels : ∀ l, .level l ∈ needs → l ≠ ⟨.before, first⟩) : Lessens first needs needs where
  sublist := .refl needs
  others := rfl
  levels := levels
  scopes k listed := Or.inr ⟨k, listed, rfl⟩

lemma append (left : Lessens first needs' needs) (right : Lessens first more' more) :
    Lessens first (needs' ++ more') (needs ++ more) where
  sublist := left.sublist.append right.sublist
  others := by rw [List.filter_append, List.filter_append, left.others, right.others]
  levels l listed := (List.mem_append.1 listed).elim (left.levels l) (right.levels l)
  scopes k listed := by
    rcases List.mem_append.1 listed with listed | listed
    · refine (left.scopes k listed).imp_right ?_
      rintro ⟨k', found, same⟩
      exact ⟨k', List.mem_append_left _ found, same⟩
    · refine (right.scopes k listed).imp_right ?_
      rintro ⟨k', found, same⟩
      exact ⟨k', List.mem_append_right _ found, same⟩

/-- Needs are lessened part by part. -/
lemma flatten {parts' parts : List (List Need)} (each : List.Forall₂ (Lessens first) parts' parts) :
    Lessens first parts'.flatten parts.flatten := by
  induction each with
  | nil => exact refl nofun
  | cons part _ ih =>
    rw [List.flatten_cons, List.flatten_cons]
    exact part.append ih

lemma flatMap {α : Type} {part' part : α → List Need} {items : List α}
    (each : ∀ item, Lessens first (part' item) (part item)) :
    Lessens first (items.flatMap part') (items.flatMap part) := by
  rw [List.flatMap_def, List.flatMap_def]
  refine flatten ?_
  rw [List.forall₂_map_left_iff, List.forall₂_map_right_iff, List.forall₂_same]
  exact fun item _ => each item

end Need.Lessens

section

variable {w : Window} {first : Date}

/-- Over a span only the snapshot before the first day is left out. -/
lemma Window.needSpan_lessens (start : w.start = some first) (d : Dimension) (span : Span) (scope : Scope) :
    Need.Lessens first (w.withoutStart.needSpan d span scope) (w.needSpan d span scope) := by
  cases span with
  | sinceRegistration => exact .refl fun l listed => by cases List.mem_singleton.1 listed
  | inPeriod =>
    rw [needSpan, needSpan, needBefore, needBefore, start]
    refine ⟨List.sublist_cons_self _ _, ?_, fun l listed => ?_, ?_⟩
    · simp [Need.isBefore, Need.snapshotKey?, SnapshotKey.IsBefore, needFinish, withoutStart]
    · cases List.mem_singleton.1 listed
    · intro k listed
      refine Or.inr ⟨⟨d, .finish, w.finish, scope⟩, List.mem_singleton.2 rfl, ?_⟩
      simp only [needFinish, List.cons_append, List.nil_append, List.mem_cons, Need.snapshot.injEq,
        List.not_mem_nil, or_false] at listed
      rcases listed with rfl | rfl <;> rfl

/-- The level before the first day is left out. -/
lemma Window.needLevelBefore_lessens (start : w.start = some first) :
    Need.Lessens first w.withoutStart.needLevelBefore w.needLevelBefore := by
  unfold needLevelBefore LevelSnapshot.atStart?
  rw [start]
  refine ⟨List.nil_sublist _, ?_, nofun, fun k listed => ?_⟩
  · simp [Need.isBefore, Need.snapshotKey?, SnapshotKey.IsBefore, LevelSnapshot.key, withoutStart]
  · cases List.mem_singleton.1 listed

/-- The level at the last day stays. -/
lemma Window.needLevelFinish_lessens :
    Need.Lessens first [w.withoutStart.needLevelFinish] [w.needLevelFinish] := by
  refine .refl fun l listed => ?_
  cases List.mem_singleton.1 listed
  exact fun same => by cases congrArg LevelSnapshot.boundary same

/-- What a column needs is lessened. -/
lemma Column.needs_lessens (start : w.start = some first) (c : Column) :
    Need.Lessens first (c.needs w.withoutStart) (c.needs w) := by
  unfold needs
  cases c.type with
  | rowNumber | userName | userGroups | registrationDate | daysSinceRegistration => exact .refl nofun
  | count counter span ratio form =>
    refine (Need.Lessens.flatMap fun scope => (w.needSpan_lessens start _ span scope).append ?_).append ?_
    · split
      · exact w.needSpan_lessens start _ span scope
      · exact .refl nofun
    · split
      · exact w.needSpan_lessens start _ span .whole
      · exact .refl nofun
  | logDate edge =>
    refine .refl fun l listed => ?_
    obtain ⟨f, -, same⟩ := List.mem_map.1 listed
    cases same
  | activityDate activity edge | activityDays activity =>
    exact .refl fun l listed => by cases List.mem_singleton.1 listed
  | averagePerDay counter span => exact w.needSpan_lessens start _ span .whole
  | level moment =>
    cases moment with
    | start => exact w.needLevelBefore_lessens start
    | finish | sortOrder => exact w.needLevelFinish_lessens
    | finishWithChange => exact (w.needLevelBefore_lessens start).append w.needLevelFinish_lessens
  | milestone counter => exact w.needSpan_lessens start _ .inPeriod .whole

/-- An epoch other than the start of the period names the same day. -/
lemma Window.resolve_withoutStart {epoch : Option Epoch} (avoids : epoch ≠ some .startOfPeriod) :
    w.withoutStart.resolve epoch = w.resolve epoch := by
  cases epoch with
  | none => rfl
  | some epoch =>
    cases epoch with
    | offset days => rfl
    | startOfPeriod => exact absurd rfl avoids

lemma Window.bounds_withoutStart {epoch : Option Epoch} (avoids : epoch ≠ some .startOfPeriod) (period : Int) :
    w.withoutStart.bounds period epoch = w.bounds period epoch := by
  unfold bounds
  rw [resolve_withoutStart avoids]

/-- What a condition needs is lessened, and a condition fails to be planned as before. -/
lemma Condition.needs_lessens (start : w.start = some first) {c : Condition} (avoids : c.AvoidsStart) :
    Corresponds (Need.Lessens first) (c.needs w.withoutStart) (c.needs w) := by
  cases c with
  | threshold t =>
    have same : t.needs w.withoutStart = t.needs w := by
      unfold Threshold.needs
      simp only [Window.bounds_withoutStart (avoids t rfl), Window.resolve_withoutStart (avoids t rfl)]
    show Corresponds _ (t.needs w.withoutStart) (t.needs w)
    rw [same]
    cases needed : t.needs w with
    | error f => exact .error f
    | ok list =>
      refine .ok (.refl fun l listed => ?_)
      obtain ⟨k, same, -⟩ := t.isSnapshot_of_mem_needs needed listed
      cases same
  | milestone counter milestones =>
    cases milestones with
    | nil => exact .ok (.refl nofun)
    | cons m rest => exact .ok (w.needSpan_lessens start _ .inPeriod .whole)
  | level changed ids =>
    have before : Need.Lessens first (if changed then w.withoutStart.needLevelBefore else [])
        (if changed then w.needLevelBefore else []) := by
      split
      · exact w.needLevelBefore_lessens start
      · exact .refl nofun
    exact .ok (w.needLevelFinish_lessens.append before)
  | _ => exact .ok (.refl nofun)

end

/-! ## Plans -/

/-- A filtered list lists first what the list itself lists first. -/
lemma firstSeen_filter {α : Type} [DecidableEq α] (p : α → Bool) (list : List α) :
    firstSeen (list.filter p) = (firstSeen list).filter p := by
  induction list with
  | nil => rfl
  | cons a rest ih =>
    rw [firstSeen, List.filter_cons, List.filter_cons]
    split
    · rw [firstSeen, ih, List.filter_filter, List.filter_filter]
      simp only [Bool.and_comm]
    · rename_i dropped
      rw [ih, List.filter_filter]
      refine List.filter_congr fun b _ => ?_
      by_cases same : b = a
      · subst same
        simp [dropped]
      · simp [same]

/-- Whether a plan reads what another one does, less some of what lies before a day. -/
structure JoinPlan.Lessens (first : Date) (p' p : JoinPlan) : Prop where
  subset : p'.snapshots ⊆ p.snapshots
  nodup : p'.snapshots.Nodup
  others : ∀ k ∈ p.snapshots, ¬ k.IsBefore first → k ∈ p'.snapshots
  scopes : ∀ k ∈ p.snapshots, k.scope = .whole ∨ ∃ k' ∈ p'.snapshots, k'.scope = k.scope
  ranges : p'.ranges = p.ranges
  levels : p'.levels = p.levels.filter (· ≠ ⟨.before, first⟩)

/-- The plan for fewer needs. -/
lemma Need.Lessens.ofNeeds {first : Date} {needs' needs : List Need} (h : Lessens first needs' needs) :
    (JoinPlan.ofNeeds needs').Lessens first (JoinPlan.ofNeeds needs) where
  subset k read := by
    rw [JoinPlan.ofNeeds, mem_firstSeen] at read ⊢
    exact (h.sublist.filterMap _).subset read
  nodup := nodup_firstSeen _
  others k read late := by
    rw [JoinPlan.ofNeeds, mem_firstSeen, List.mem_filterMap] at read ⊢
    obtain ⟨n, needed, reads⟩ := read
    have kept : n ∈ needs.filter (!·.isBefore first) := by
      refine List.mem_filter.2 ⟨needed, ?_⟩
      rw [isBefore, reads, Option.any_some, decide_eq_false late]
      rfl
    rw [← h.others] at kept
    exact ⟨n, (List.mem_filter.1 kept).1, reads⟩
  scopes k read := by
    rcases JoinPlan.mem_snapshots_ofNeeds.1 read with needed | ⟨l, -, rfl⟩
    · refine (h.scopes k needed).imp_right ?_
      rintro ⟨k', found, same⟩
      exact ⟨k', JoinPlan.mem_snapshots_ofNeeds.2 (Or.inl found), same⟩
    · exact Or.inl rfl
  ranges := by
    have late : ∀ needs : List Need, (needs.filter (!·.isBefore first)).filterMap rangeKey? =
        needs.filterMap rangeKey? := by
      intro needs
      rw [List.filterMap_filter]
      refine List.filterMap_congr fun n _ => ?_
      cases n with
      | range k => rfl
      | _ => split <;> rfl
    show firstSeen (needs'.filterMap rangeKey?) = firstSeen (needs.filterMap rangeKey?)
    rw [← late needs', h.others, late]
  levels := by
    have late : ∀ needs : List Need, (needs.filter (!·.isBefore first)).filterMap levelSnapshot? =
        (needs.filterMap levelSnapshot?).filter (· ≠ ⟨.before, first⟩) := by
      intro needs
      rw [List.filterMap_filter, List.filter_filterMap]
      refine List.filterMap_congr fun n _ => ?_
      cases n with
      | level l =>
        obtain ⟨boundary, day⟩ := l
        by_cases before : boundary = .before <;> by_cases same : day = first <;>
          simp [isBefore, snapshotKey?, levelSnapshot?, SnapshotKey.IsBefore, LevelSnapshot.key, Option.filter,
            before, same]
      | _ => split <;> rfl
    have kept : (needs'.filterMap levelSnapshot?).filter (· ≠ ⟨.before, first⟩) =
        needs'.filterMap levelSnapshot? := by
      refine List.filter_eq_self.2 fun l listed => decide_eq_true ?_
      obtain ⟨n, needed, reads⟩ := List.mem_filterMap.1 listed
      cases n with
      | level l' =>
        cases reads
        exact h.levels l needed
      | _ => cases reads
    show firstSeen (needs'.filterMap levelSnapshot?) = _
    rw [← kept, ← late, h.others, late, firstSeen_filter]
    rfl

/-- Without the first day of its window a request has a plan that reads less before that day, or fails to be
planned as before. -/
lemma JoinPlan.ofRequest_withoutStart {r : Request} {first : Date} (start : r.window.start = some first)
    (avoids : ∀ c ∈ r.conditions, c.AvoidsStart) :
    Corresponds (JoinPlan.Lessens first) (ofRequest r.withoutStart) (ofRequest r) := by
  have conditions : List.Forall₂ (fun c' c => c' = c ∧ c.AvoidsStart) r.conditions r.conditions :=
    List.forall₂_same.2 fun c listed => ⟨rfl, avoids c listed⟩
  have required : Corresponds (List.Forall₂ (Need.Lessens first))
      (r.conditions.mapM (·.needs r.window.withoutStart)) (r.conditions.mapM (·.needs r.window)) := by
    refine Corresponds.mapM conditions ?_
    rintro _ c ⟨rfl, avoids⟩
    exact Condition.needs_lessens start avoids
  have needs : Corresponds (Need.Lessens first) r.withoutStart.needs r.needs :=
    required.bind fun _ _ each => .ok ((Need.Lessens.flatMap fun c => c.needs_lessens start).append (.flatten each))
  exact needs.map fun _ _ lessened => lessened.ofNeeds

end ActivityReport
