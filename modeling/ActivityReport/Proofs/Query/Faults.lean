import ActivityReport.Failure.Basic
import ActivityReport.Proofs.Calendar.Epoch
import ActivityReport.Proofs.Calendar.Key
import ActivityReport.Proofs.Payload.Column
import ActivityReport.Proofs.Query.Served

/-!
# Faults of the stages

When planning a request or building its query fails. Planning fails on the thresholds alone, when one of them
looks at a day outside the calendar; building fails when a threshold has no scope to sum over or when the
registration of the actors is compared with the day after the last one. Columns take no part in either, since
whatever a column of a parsed request refers to is planned and stored (`Request.faults_of_readRequest`).
-/

namespace ActivityReport

/-! ## Conditions that fail -/

/-- Whether a threshold is measured at a day that is not in the calendar, or counts from such a day. -/
def Threshold.LeavesCalendar (w : Window) (t : Threshold) : Prop :=
  ∃ n ∈ w.ordinal? t.epoch, Date.IsOutside n ∨ ∃ period ∈ t.period, Date.IsOutside (n - period)

/-- Whether a threshold lists no namespace, or no change tag, to sum over at the day that its epoch names. -/
def Threshold.SumsNothing (w : Window) (t : Threshold) : Prop :=
  (t.scopes = .namespaces [] ∨ t.scopes = .changeTags []) ∧ ∃ day, w.resolve t.epoch = .ok (some day)

/-- Whether a condition compares registrations with the day after the last one. -/
def Condition.LooksPastFinish : Condition → Prop
  | registrationStatus statuses => .registered ∈ statuses
  | registrationAge .. => True
  | _ => False

namespace Threshold

variable {w : Window} {t : Threshold}

/-- What a threshold needs is known unless it leaves the calendar. -/
lemma exists_needs_iff : (∃ list, t.needs w = .ok list) ↔ ¬ t.LeavesCalendar w := by
  unfold LeavesCalendar needs
  cases t.period with
  | none =>
    trans ∃ day, w.resolve t.epoch = .ok day
    · constructor
      · rintro ⟨list, needed⟩
        obtain ⟨day, resolved, -⟩ := bind_eq_ok.1 needed
        exact ⟨day, resolved⟩
      · rintro ⟨day, resolved⟩
        exact ⟨_, bind_eq_ok.2 ⟨day, resolved, rfl⟩⟩
    · rw [Window.exists_resolve_iff]
      simp
  | some period =>
    trans ∃ days, w.bounds period t.epoch = .ok days
    · constructor
      · rintro ⟨list, needed⟩
        obtain ⟨days, bounded, -⟩ := bind_eq_ok.1 needed
        exact ⟨days, bounded⟩
      · rintro ⟨days, bounded⟩
        exact ⟨_, bind_eq_ok.2 ⟨days, bounded, rfl⟩⟩
    · rw [Window.exists_bounds_iff]
      simp

/-- The predicate of a threshold whose needs are known fails only for want of a scope. -/
lemma predicate?_eq_error_iff {list : List Need} (needed : t.needs w = .ok list) {f : QueryFault} :
    t.predicate? w = .error f ↔
      f = .emptySum ∧ t.scopes.toList = [] ∧ ∃ day, w.resolve t.epoch = .ok (some day) := by
  unfold needs at needed
  unfold predicate? sumOverScopes
  cases form : t.period with
  | none =>
    simp only [form] at needed ⊢
    obtain ⟨day, resolved, -⟩ := bind_eq_ok.1 needed
    rw [resolved]
    cases day with
    | none => exact ⟨nofun, nofun⟩
    | some day =>
      cases scopes : t.scopes.toList with
      | nil => exact ⟨fun h => ⟨(Except.error.inj h).symm, rfl, day, rfl⟩, fun ⟨same, _⟩ => congrArg Except.error same.symm⟩
      | cons scope rest => exact ⟨nofun, nofun⟩
  | some period =>
    simp only [form] at needed ⊢
    obtain ⟨days, bounded, -⟩ := bind_eq_ok.1 needed
    obtain ⟨last, resolved, bound⟩ := bind_eq_ok.1 bounded
    rw [bounded, resolved]
    cases last with
    | none =>
      cases bound
      exact ⟨nofun, nofun⟩
    | some last =>
      obtain ⟨first, -, bound⟩ := bind_eq_ok.1 bound
      cases bound
      cases scopes : t.scopes.toList with
      | nil => exact ⟨fun h => ⟨(Except.error.inj h).symm, rfl, last, rfl⟩, fun ⟨same, _⟩ => congrArg Except.error same.symm⟩
      | cons scope rest => exact ⟨nofun, nofun⟩

lemma toList_eq_nil_iff (offered : (Condition.threshold t).criterion ∈ Criterion.all) :
    t.scopes.toList = [] ↔ t.scopes = .namespaces [] ∨ t.scopes = .changeTags [] := by
  have noLogs : t.scopes.form ≠ .logFilters := Criterion.form_ne_logFilters offered
  cases scopes : t.scopes with
  | whole => simp [Scopes.toList]
  | namespaces ids => simp [Scopes.toList]
  | changeTags filters => simp [Scopes.toList]
  | logFilters filters =>
    rw [scopes] at noLogs
    exact absurd rfl noLogs

end Threshold

lemma Date.toYmd_eq_last_iff {d : Date} : d.toYmd = (9999, 12, 31) ↔ d.ordinal = lastOrdinal := by
  have last : (⟨lastOrdinal, by decide, by decide⟩ : Date).toYmd = (9999, 12, 31) := by decide +kernel
  rw [← last]
  exact ⟨fun same => congrArg ordinal (toYmd_injective same), fun same => congrArg toYmd (ordinal_injective same)⟩

/-- The day after the last one is missing at the end of the calendar only. -/
lemma Window.checkNextDay_eq_error_iff {w : Window} {f : QueryFault} :
    w.checkNextDay = .error f ↔ f = .day .outOfRange ∧ w.finish.toYmd = (9999, 12, 31) := by
  have span : checkSpan 1 = .ok () := by decide
  have past : w.finish.addDays? 1 = none ↔ w.finish.toYmd = (9999, 12, 31) := by
    have high := w.finish.le_last
    rw [Date.toYmd_eq_last_iff, Date.addDays?, Date.ofOrdinal?_eq_none_iff]
    omega
  unfold checkNextDay Date.later
  rw [span, ← past]
  cases w.finish.addDays? 1 with
  | none => exact ⟨fun h => ⟨(Except.error.inj h).symm, rfl⟩, fun ⟨same, _⟩ => congrArg Except.error same.symm⟩
  | some next => exact ⟨nofun, nofun⟩

namespace Condition

variable {w : Window} {c : Condition}

lemma exists_needs_eq_error_iff :
    (∃ f, c.needs w = .error f) ↔ ∃ t, c = .threshold t ∧ t.LeavesCalendar w := by
  cases c with
  | threshold t =>
    rw [exists_eq_error_iff]
    show ¬ (∃ list, t.needs w = .ok list) ↔ _
    rw [t.exists_needs_iff, not_not]
    exact ⟨fun leaves => ⟨t, rfl, leaves⟩, fun ⟨_, same, leaves⟩ => Condition.threshold.inj same ▸ leaves⟩
  | milestone counter milestones => cases milestones <;> simp [needs]
  | _ => simp [needs]

/-- The predicate of a condition whose needs are known fails for want of a scope or for want of a day. -/
lemma predicate?_eq_error_iff (offered : c.criterion ∈ Criterion.all) {list : List Need} (needed : c.needs w = .ok list)
    {f : QueryFault} : c.predicate? w = .error f ↔
      (f = .emptySum ∧ ∃ t, c = .threshold t ∧ t.SumsNothing w) ∨
        (f = .day .outOfRange ∧ w.finish.toYmd = (9999, 12, 31) ∧ c.LooksPastFinish) := by
  cases c with
  | threshold t =>
    show t.predicate? w = _ ↔ _
    rw [Threshold.predicate?_eq_error_iff needed, t.toList_eq_nil_iff offered]
    simp [LooksPastFinish, Threshold.SumsNothing]
  | registrationStatus statuses =>
    show (if statuses.contains .registered = true then
      w.checkNextDay >>= fun _ => .ok (some (Predicate.status statuses w.finish)) else .ok _) = .error f ↔ _
    by_cases registered : .registered ∈ statuses
    · rw [if_pos (List.contains_iff_mem.2 registered), bind_ok_eq_error, Window.checkNextDay_eq_error_iff]
      simp [LooksPastFinish, registered]
    · rw [if_neg (by rwa [List.contains_iff_mem])]
      simp [LooksPastFinish, registered]
  | registrationAge comparison days =>
    show (w.checkNextDay >>= fun _ => .ok _) = .error f ↔ _
    rw [bind_ok_eq_error, Window.checkNextDay_eq_error_iff]
    simp [LooksPastFinish]
  | milestone counter milestones => cases milestones <;> simp [predicate?, LooksPastFinish]
  | _ => simp [predicate?, LooksPastFinish]

end Condition

/-! ## Stages that fail -/

/-- Planning fails as it does for one of the conditions. -/
lemma JoinPlan.ofRequest_eq_error_iff {r : Request} {f : DayFault} :
    ofRequest r = .error f ↔ r.conditions.mapM (·.needs r.window) = .error f := by
  unfold ofRequest Request.needs
  cases r.conditions.mapM (·.needs r.window) with
  | error e => exact ⟨fun h => congrArg Except.error (Except.error.inj h), fun h => congrArg Except.error (Except.error.inj h)⟩
  | ok required => exact ⟨nofun, nofun⟩

/-- Building a query fails as it does for one of the conditions. -/
lemma Query.ofPlan_eq_error_iff {p : JoinPlan} {r : Request} {f : QueryFault} :
    ofPlan p r = .error f ↔ r.conditions.mapM (·.predicate? r.window) = .error f :=
  bind_ok_eq_error

namespace Request

variable {r : Request} {p : JoinPlan}

/-- Planning fails exactly when a threshold leaves the calendar. -/
theorem exists_ofRequest_eq_error_iff :
    (∃ f, JoinPlan.ofRequest r = .error f) ↔ ∃ t, .threshold t ∈ r.conditions ∧ t.LeavesCalendar r.window := by
  simp only [JoinPlan.ofRequest_eq_error_iff, exists_mapM_eq_error_iff, Condition.exists_needs_eq_error_iff]
  constructor
  · rintro ⟨_, listed, t, rfl, leaves⟩
    exact ⟨t, listed, leaves⟩
  · rintro ⟨t, listed, leaves⟩
    exact ⟨_, listed, t, rfl, leaves⟩

lemma fault_of_ofPlan (offered : ∀ c ∈ r.conditions, c.criterion ∈ Criterion.all)
    (planned : JoinPlan.ofRequest r = .ok p) {f : QueryFault} (failed : Query.ofPlan p r = .error f) :
    (f = .emptySum ∧ ∃ t, .threshold t ∈ r.conditions ∧ t.SumsNothing r.window) ∨
      (f = .day .outOfRange ∧ r.window.finish.toYmd = (9999, 12, 31) ∧ ∃ c ∈ r.conditions, c.LooksPastFinish) := by
  obtain ⟨required, needed, -⟩ := JoinPlan.ofRequest_eq_ok.1 planned
  obtain ⟨c, listed, own⟩ := exists_of_mapM_eq_error (Query.ofPlan_eq_error_iff.1 failed)
  obtain ⟨list, -, known⟩ := exists_of_mapM_eq_ok needed listed
  rcases (c.predicate?_eq_error_iff (offered c listed) known).1 own with ⟨rfl, t, rfl, nothing⟩ | ⟨rfl, last, past⟩
  · exact Or.inl ⟨rfl, t, listed, nothing⟩
  · exact Or.inr ⟨rfl, last, c, listed, past⟩

/-- The query of a request that is planned fails exactly when a threshold has no scope to sum over or the day after
the last one is looked at and missing. -/
theorem exists_ofPlan_eq_error_iff (offered : ∀ c ∈ r.conditions, c.criterion ∈ Criterion.all)
    (planned : JoinPlan.ofRequest r = .ok p) :
    (∃ f, Query.ofPlan p r = .error f) ↔ (∃ t, .threshold t ∈ r.conditions ∧ t.SumsNothing r.window) ∨
      r.window.finish.toYmd = (9999, 12, 31) ∧ ∃ c ∈ r.conditions, c.LooksPastFinish := by
  obtain ⟨required, needed, -⟩ := JoinPlan.ofRequest_eq_ok.1 planned
  have fails : ∀ c ∈ r.conditions, ∀ f, c.predicate? r.window = .error f → ∃ f, Query.ofPlan p r = .error f := by
    intro c listed f own
    simp only [Query.ofPlan_eq_error_iff]
    exact exists_mapM_eq_error_iff.2 ⟨c, listed, f, own⟩
  constructor
  · rintro ⟨f, failed⟩
    exact (fault_of_ofPlan offered planned failed).imp And.right And.right
  · rintro (⟨t, listed, nothing⟩ | ⟨last, c, listed, past⟩)
    · obtain ⟨list, -, known⟩ := exists_of_mapM_eq_ok needed listed
      refine fails _ listed .emptySum ?_
      exact (Condition.predicate?_eq_error_iff (offered _ listed) known).2 (Or.inl ⟨rfl, t, rfl, nothing⟩)
    · obtain ⟨list, -, known⟩ := exists_of_mapM_eq_ok needed listed
      refine fails c listed (.day .outOfRange) ?_
      exact (c.predicate?_eq_error_iff (offered c listed) known).2 (Or.inr ⟨rfl, last, past⟩)

end Request

/-! ## Parsed requests -/

/-- Planning a parsed request fails exactly when one of its thresholds leaves the calendar. What is planned can all be
joined and looked up, for every column and every condition. The query then fails to be built exactly when a threshold
lists no scope to sum over at its day, or when registrations are compared with the day after 31 December 9999.
Columns change nothing about this. -/
theorem Request.faults_of_readRequest {json : Json} {r : Request} (parsed : Payload.readRequest json = .ok r) :
    ((∃ f, JoinPlan.ofRequest r = .error f) ↔ ∃ t, .threshold t ∈ r.conditions ∧ t.LeavesCalendar r.window) ∧
    (∀ f, JoinPlan.ofRequest r = .error f → (Failure.query (.day f)).name = "OverflowError") ∧
    (∀ p, JoinPlan.ofRequest r = .ok p → p.Serves r ∧
      ((∃ f, Query.ofPlan p r = .error f) ↔ (∃ t, .threshold t ∈ r.conditions ∧ t.SumsNothing r.window) ∨
        r.window.finish.toYmd = (9999, 12, 31) ∧ ∃ c ∈ r.conditions, c.LooksPastFinish) ∧
      ∀ f, Query.ofPlan p r = .error f →
        ((Failure.query f).name = "TypeError" ∧ ∃ t, .threshold t ∈ r.conditions ∧ t.SumsNothing r.window) ∨
          ((Failure.query f).name = "OverflowError" ∧ r.window.finish.toYmd = (9999, 12, 31) ∧
            ∃ c ∈ r.conditions, c.LooksPastFinish)) ∧
    ∀ columns : List Column,
      (∀ f, JoinPlan.ofRequest { r with columns := columns } = .error f ↔ JoinPlan.ofRequest r = .error f) ∧
        ∀ p f, Query.ofPlan p { r with columns := columns } = .error f ↔ Query.ofPlan p r = .error f := by
  have columns := Payload.type_mem_all_of_readRequest parsed
  have conditions := Payload.criterion_mem_all_of_readRequest parsed
  refine ⟨exists_ofRequest_eq_error_iff, fun _ _ => rfl, fun p planned => ⟨?_, ?_, ?_⟩, fun columns => ⟨?_, ?_⟩⟩
  · exact JoinPlan.serves columns conditions planned
  · exact exists_ofPlan_eq_error_iff conditions planned
  · intro f failed
    rcases fault_of_ofPlan conditions planned failed with ⟨rfl, nothing⟩ | ⟨rfl, past⟩
    · exact Or.inl ⟨rfl, nothing⟩
    · exact Or.inr ⟨rfl, past⟩
  -- neither failure looks at the columns
  · intro f
    rw [JoinPlan.ofRequest_eq_error_iff, JoinPlan.ofRequest_eq_error_iff]
    rfl
  · intro p f
    rw [Query.ofPlan_eq_error_iff, Query.ofPlan_eq_error_iff]
    rfl

/-- A request for the share of two namespaces in the edits of the wiki, with one requirement. -/
def Json.ofRequirement (requirement : String × Json) (endDate : String) : Json :=
  .object [("wikiId", .text "w"),
    ("columns", .list [.object [("type", .text "editsInNamespaceInPeriodPercentageToWikiTotal"),
      ("namespace", .list [.int 0, .int 1])]]),
    ("requirements", .object [requirement]), ("endDate", .text endDate)]

/-- An epoch three thousand years back is not planned; a threshold without namespaces and a request for registered
actors at the end of the calendar are, but get no query. -/
theorem Request.faults_of_three :
    (∃ r t f, Payload.readRequest (.ofRequirement
        ("totalEditsAtLeast", .object [("count", .int 1), ("epoch", .int (-1000000))]) "2023-12-31") = .ok r ∧
      .threshold t ∈ r.conditions ∧ t.LeavesCalendar r.window ∧ JoinPlan.ofRequest r = .error f) ∧
    (∃ r p f, Payload.readRequest (.ofRequirement
        ("totalEditsInNamespaceAtLeast", .object [("namespace", .list []), ("count", .int 1)]) "2023-12-31") = .ok r ∧
      JoinPlan.ofRequest r = .ok p ∧ p.Serves r ∧ Query.ofPlan p r = .error f ∧ (Failure.query f).name = "TypeError") ∧
    ∃ r p f, Payload.readRequest (.ofRequirement ("registrationStatus", .text "registered") "9999-12-31") = .ok r ∧
      JoinPlan.ofRequest r = .ok p ∧ p.Serves r ∧ Query.ofPlan p r = .error f ∧
      (Failure.query f).name = "OverflowError" := by
  refine ⟨?_, ?_, ?_⟩
  · obtain ⟨r, parsed, conditions, ordinal⟩ : ∃ r, Payload.readRequest (.ofRequirement
          ("totalEditsAtLeast", .object [("count", .int 1), ("epoch", .int (-1000000))]) "2023-12-31") = .ok r ∧
        r.conditions = [.threshold ⟨.edits, .atLeast, .whole, 1, none, some (.offset (-1000000))⟩] ∧
        r.window.ordinal? (some (.offset (-1000000))) = some (-261115) := ⟨_, rfl, rfl, by decide +kernel⟩
    have leaves : Threshold.LeavesCalendar r.window ⟨.edits, .atLeast, .whole, 1, none, some (.offset (-1000000))⟩ :=
      ⟨_, ordinal, Or.inl (by decide)⟩
    have listed := conditions ▸ List.mem_singleton.2 rfl
    obtain ⟨f, failed⟩ := (faults_of_readRequest parsed).1.2 ⟨_, listed, leaves⟩
    exact ⟨r, _, f, parsed, listed, leaves, failed⟩
  · obtain ⟨r, p, parsed, planned, conditions⟩ : ∃ r p, Payload.readRequest (.ofRequirement
          ("totalEditsInNamespaceAtLeast", .object [("namespace", .list []), ("count", .int 1)]) "2023-12-31") = .ok r ∧
        JoinPlan.ofRequest r = .ok p ∧
        r.conditions = [.threshold ⟨.edits, .atLeast, .namespaces [], 1, none, none⟩] := ⟨_, _, rfl, rfl, rfl⟩
    obtain ⟨serves, fails, kinds⟩ := (faults_of_readRequest parsed).2.2.1 p planned
    obtain ⟨f, failed⟩ := fails.2 (Or.inl ⟨_, conditions ▸ List.mem_singleton.2 rfl, Or.inl rfl, _, rfl⟩)
    refine ⟨r, p, f, parsed, planned, serves, failed, ?_⟩
    rcases kinds f failed with ⟨kind, -⟩ | ⟨-, -, c, listed, past⟩
    · exact kind
    · rw [conditions, List.mem_singleton] at listed
      subst listed
      cases past
  · obtain ⟨r, p, parsed, planned, last, conditions⟩ : ∃ r p, Payload.readRequest (.ofRequirement
          ("registrationStatus", .text "registered") "9999-12-31") = .ok r ∧ JoinPlan.ofRequest r = .ok p ∧
        r.window.finish.toYmd = (9999, 12, 31) ∧ r.conditions = [.registrationStatus [.registered]] :=
      ⟨_, _, rfl, rfl, by decide +kernel, rfl⟩
    obtain ⟨serves, fails, kinds⟩ := (faults_of_readRequest parsed).2.2.1 p planned
    obtain ⟨f, failed⟩ :=
      fails.2 (Or.inr ⟨last, _, conditions ▸ List.mem_singleton.2 rfl, List.mem_singleton.2 rfl⟩)
    refine ⟨r, p, f, parsed, planned, serves, failed, ?_⟩
    rcases kinds f failed with ⟨-, t, listed, -⟩ | ⟨kind, -⟩
    · rw [conditions, List.mem_singleton] at listed
      cases listed
    · exact kind

end ActivityReport
