import ActivityReport.Proofs.Calendar.Epoch
import ActivityReport.Proofs.Plan.Coverage
import ActivityReport.Proofs.Store.Latest

/-!
# The horizon of a request

The latest day that a request looks at: the last day of its window, or a later day that an epoch of its
conditions names (`Request.horizon`). Nothing that is planned for the request lies after it. When no
epoch counts days forward the horizon is the last day.
-/

namespace ActivityReport

/-- The day at which a threshold is measured, if its epoch names one. -/
def Threshold.epochDay? (w : Window) (t : Threshold) : Option Date := (w.resolve t.epoch).toOption.join

/-- The day at which a condition is measured, if it has an epoch that names one. -/
def Condition.epochDay? (w : Window) : Condition → Option Date
  | threshold t => t.epochDay? w
  | _ => none

/-- Whether an epoch does not lie after the last day. -/
def Epoch.IsPast : Epoch → Prop
  | offset n => n ≤ 0
  | startOfPeriod => True

instance : DecidablePred Epoch.IsPast
  | .offset n => inferInstanceAs (Decidable (n ≤ 0))
  | .startOfPeriod => inferInstanceAs (Decidable True)

/-- Whether no epoch of a condition lies after the last day. -/
def Condition.IsPast : Condition → Prop
  | threshold t => ∀ epoch ∈ t.epoch, epoch.IsPast
  | _ => True

instance : DecidablePred Condition.IsPast
  | .threshold t => inferInstanceAs (Decidable (∀ epoch ∈ t.epoch, epoch.IsPast))
  | .registrationStatus _ | .registrationAge .. | .inGroups _ | .notInGroups _ | .hasTemplates _
  | .hasNoTemplates _ | .milestone .. | .level .. => inferInstanceAs (Decidable True)

/-- The day of what is read. -/
def Need.date : Need → Date
  | snapshot key => key.date
  | range key => key.date
  | level s => s.date

/-- The latest day that a request looks at. -/
def Request.horizon (r : Request) : Date :=
  (r.conditions.filterMap (·.epochDay? r.window)).foldl (fun a b => if a < b then b else a) r.window.finish

namespace Request

variable {r : Request}

/-- The horizon is the last day or an epoch, and none of these days lies after it. -/
lemma mem_horizon (r : Request) : r.horizon ∈ r.window.finish :: r.conditions.filterMap (·.epochDay? r.window) ∧
    ∀ day ∈ r.window.finish :: r.conditions.filterMap (·.epochDay? r.window), day ≤ r.horizon := by
  obtain ⟨found, last⟩ := foldl_better (r := fun b a : Date => a < b) (by simp only [Date.lt_def]; omega)
    (by simp only [Date.lt_def]; omega) (r.conditions.filterMap (·.epochDay? r.window)) r.window.finish
  exact ⟨found, fun day listed => Nat.not_lt.1 (last day listed)⟩

/-- The last day does not lie after the horizon. -/
lemma finish_le_horizon : r.window.finish ≤ r.horizon := r.mem_horizon.2 _ List.mem_cons_self

/-- No epoch lies after the horizon. -/
lemma epochDay_le_horizon {c : Condition} (listed : c ∈ r.conditions) {day : Date}
    (named : c.epochDay? r.window = some day) : day ≤ r.horizon :=
  r.mem_horizon.2 _ (List.mem_cons_of_mem _ (List.mem_filterMap.2 ⟨c, listed, named⟩))

/-- The days of a span lie in the window. -/
lemma date_le_of_mem_needSpan {d : Dimension} {span : Span} {scope : Scope} {need : Need}
    (needed : need ∈ r.window.needSpan d span scope) : need.date ≤ r.window.finish := by
  have before : ∀ need ∈ r.window.needBefore d scope, need.date ≤ r.window.finish := by
    intro need needed
    unfold Window.needBefore at needed
    cases start : r.window.start with
    | none =>
      rw [start] at needed
      cases needed
    | some first =>
      rw [start] at needed
      rw [List.mem_singleton.1 needed]
      exact r.ordered first start
  cases span with
  | inPeriod =>
    rcases List.mem_append.1 needed with early | late
    · exact before need early
    · rw [List.mem_singleton.1 late]
      exact Date.le_refl _
  | sinceRegistration =>
    rw [List.mem_singleton.1 needed]
    exact Date.le_refl _

/-- The day before which a level is looked up lies in the window. -/
lemma date_le_of_mem_needLevelBefore {need : Need} (needed : need ∈ r.window.needLevelBefore) :
    need.date ≤ r.window.finish := by
  obtain ⟨l, listed, rfl⟩ := List.mem_map.1 needed
  obtain ⟨first, start, rfl⟩ := Option.map_eq_some_iff.1 (Option.mem_toList.1 listed)
  exact r.ordered first start

/-- What a column needs lies in the window. -/
lemma date_le_of_mem_column_needs {c : Column} {need : Need} (needed : need ∈ c.needs r.window) :
    need.date ≤ r.window.finish := by
  -- a column reads nothing after the last day: each kind needs either a span of the window or the last day itself
  unfold Column.needs at needed
  cases type : c.type with
  | rowNumber | userName | userGroups | registrationDate | daysSinceRegistration =>
    rw [type] at needed
    cases needed
  | count counter span ratio form =>
    simp only [type, List.mem_append, List.mem_flatMap] at needed
    rcases needed with ⟨scope, -, own | whole⟩ | edits
    · exact date_le_of_mem_needSpan own
    · split at whole
      · exact date_le_of_mem_needSpan whole
      · cases whole
    · split at edits
      · exact date_le_of_mem_needSpan edits
      · cases edits
  | logDate edge =>
    simp only [type] at needed
    obtain ⟨f, -, rfl⟩ := List.mem_map.1 needed
    exact Date.le_refl _
  | activityDate a edge | activityDays a =>
    simp only [type] at needed
    rw [List.mem_singleton.1 needed]
    exact Date.le_refl _
  | averagePerDay counter span =>
    simp only [type] at needed
    exact date_le_of_mem_needSpan needed
  | milestone counter =>
    simp only [type] at needed
    exact date_le_of_mem_needSpan needed
  | level moment =>
    cases moment with
    | start =>
      simp only [type] at needed
      exact date_le_of_mem_needLevelBefore needed
    | finishWithChange =>
      simp only [type, List.mem_append, List.mem_singleton] at needed
      rcases needed with before | rfl
      · exact date_le_of_mem_needLevelBefore before
      · exact Date.le_refl _
    | finish | sortOrder =>
      simp only [type, List.mem_singleton] at needed
      rw [needed]
      exact Date.le_refl _

end Request

/-- The day of a threshold is the one that its epoch is resolved to. -/
lemma Threshold.epochDay?_eq_some_iff {w : Window} {t : Threshold} {day : Date} :
    t.epochDay? w = some day ↔ w.resolve t.epoch = .ok (some day) := by
  unfold epochDay?
  cases w.resolve t.epoch with
  | error fault => exact ⟨nofun, nofun⟩
  | ok found => exact ⟨fun h => congrArg Except.ok h, fun h => Except.ok.inj h⟩

/-- A day before another one does not lie after it. -/
lemma Date.le_of_earlier {d e : Date} {n : Nat} (h : d.earlier n = .ok e) : e ≤ d := by
  have ordinal := Date.earlier_eq_ok_iff.1 h
  rw [Date.le_def]
  omega

/-- What a threshold needs does not lie after its epoch. -/
lemma Threshold.date_le_of_mem_needs {w : Window} {t : Threshold} {list : List Need} (ok : t.needs w = .ok list)
    {need : Need} (needed : need ∈ list) : ∃ day, t.epochDay? w = some day ∧ need.date ≤ day := by
  simp only [epochDay?_eq_some_iff]
  unfold needs at ok
  split at ok
  · obtain ⟨days, bounded, ok⟩ := bind_eq_ok.1 ok
    cases ok
    obtain ⟨day, resolved, bounded⟩ := bind_eq_ok.1 bounded
    obtain ⟨scope, -, needed⟩ := List.mem_flatMap.1 needed
    cases day with
    | none =>
      cases bounded
      cases needed
    | some last =>
      obtain ⟨first, earlier, bounded⟩ := bind_eq_ok.1 bounded
      cases bounded
      refine ⟨last, resolved, ?_⟩
      simp only [needBounds, List.mem_cons, List.not_mem_nil, or_false] at needed
      rcases needed with rfl | rfl
      · exact Date.le_of_earlier earlier
      · exact Date.le_refl _
  · obtain ⟨day, resolved, ok⟩ := bind_eq_ok.1 ok
    cases ok
    obtain ⟨scope, -, needed⟩ := List.mem_flatMap.1 needed
    cases day with
    | none => cases needed
    | some day =>
      rw [List.mem_singleton.1 needed]
      exact ⟨day, resolved, Date.le_refl _⟩

namespace Request

variable {r : Request}

/-- What a condition needs does not lie after the horizon. -/
lemma date_le_of_mem_condition_needs {c : Condition} (listed : c ∈ r.conditions) {list : List Need}
    (ok : c.needs r.window = .ok list) {need : Need} (needed : need ∈ list) : need.date ≤ r.horizon := by
  cases c with
  | threshold t =>
    obtain ⟨day, named, le⟩ := t.date_le_of_mem_needs ok needed
    exact Date.le_trans le (epochDay_le_horizon listed named)
  | milestone counter milestones =>
    cases milestones with
    | nil =>
      cases ok
      cases needed
    | cons m rest =>
      cases ok
      exact Date.le_trans (date_le_of_mem_needSpan needed) finish_le_horizon
  | level changed ids =>
    cases ok
    refine Date.le_trans ?_ finish_le_horizon
    rcases List.mem_cons.1 needed with rfl | before
    · exact Date.le_refl _
    · cases changed with
      | false => cases before
      | true => exact date_le_of_mem_needLevelBefore before
  | _ =>
    cases ok
    cases needed

/-- Nothing that is planned for a request lies after its horizon. -/
theorem date_le_horizon {p : JoinPlan} (planned : JoinPlan.ofRequest r = .ok p) :
    (∀ k ∈ p.snapshots, k.date ≤ r.horizon) ∧ ∀ k ∈ p.ranges, k.date ≤ r.horizon := by
  obtain ⟨required, needed, rfl⟩ := JoinPlan.ofRequest_eq_ok.1 planned
  have all : ∀ need ∈ r.columns.flatMap (·.needs r.window) ++ required.flatten, need.date ≤ r.horizon := by
    intro need listed
    rcases List.mem_append.1 listed with column | condition
    · obtain ⟨c, -, own⟩ := List.mem_flatMap.1 column
      exact Date.le_trans (date_le_of_mem_column_needs own) finish_le_horizon
    · obtain ⟨list, mem, own⟩ := List.mem_flatten.1 condition
      obtain ⟨c, asked, ok⟩ := (mem_of_mapM_eq_ok needed).1 mem
      exact date_le_of_mem_condition_needs asked ok own
  constructor
  · intro k listed
    rcases JoinPlan.mem_snapshots_ofNeeds.1 listed with own | ⟨l, own, rfl⟩
    · exact all _ own
    · exact all _ own
  · exact fun k listed => all _ (JoinPlan.mem_ranges_ofNeeds.1 listed)

/-- When no epoch lies after the last day, the horizon is the last day. -/
lemma horizon_eq_finish (past : ∀ c ∈ r.conditions, c.IsPast) : r.horizon = r.window.finish := by
  -- the horizon is the last day or an epoch; an epoch is the last day, the day before the first, or an offset
  refine Date.le_antisymm ?_ finish_le_horizon
  rcases List.mem_cons.1 r.mem_horizon.1 with last | epoch
  · rw [last]
    exact Date.le_refl _
  obtain ⟨c, listed, named⟩ := List.mem_filterMap.1 epoch
  generalize r.horizon = day at named
  cases c with
  | threshold t =>
    have past : ∀ epoch ∈ t.epoch, epoch.IsPast := past _ listed
    have resolved := Threshold.epochDay?_eq_some_iff.1 named
    match epoch : t.epoch with
    | none =>
      rw [epoch] at resolved
      cases resolved
      exact Date.le_refl _
    | some .startOfPeriod =>
      cases start : r.window.start with
      | none =>
        simp only [epoch, Window.resolve, start] at resolved
        cases resolved
      | some first =>
        simp only [epoch, Window.resolve, start] at resolved
        obtain ⟨day', earlier, same⟩ := map_eq_ok.1 resolved
        cases same
        exact Date.le_trans (Date.le_of_earlier earlier) (r.ordered first start)
    | some (.offset n) =>
      rw [epoch] at resolved
      obtain ⟨day', later, same⟩ := map_eq_ok.1 resolved
      cases same
      have := Date.later_eq_ok_iff.1 later
      have : n ≤ 0 := past _ epoch
      rw [Date.le_def]
      omega
  | _ => cases named

end Request

end ActivityReport
