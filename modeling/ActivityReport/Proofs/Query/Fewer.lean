import ActivityReport.Proofs.Query.Coverage
import ActivityReport.Proofs.Query.Limits
import ActivityReport.Proofs.Query.Timeless
import ActivityReport.Proofs.Report.Answer

/-!
# Queries without columns

Without its columns a request has a query that reads a part of what the query with them reads and asks for the last
of its predicates only (`Query.ofRequest_withoutColumns`). The database takes such a query (`Query.IsPart.isTaken`),
which returns every actor that the larger one returns (`Store.WellKeyed.matching_of_isPart`); it returns no others when the
columns neither drop rows nor read what every actor must have (`Store.WellKeyed.matching_iff_of_isPart`).
-/

namespace ActivityReport

/-! ## Chains -/

lemma foldl_link_sublist {list list' : List Nat} (fewer : list'.Sublist list) {first first' : Nat}
    (le : first' ≤ first) : list'.foldl link first' ≤ list.foldl link first := by
  induction fewer generalizing first first' with
  | slnil => exact le
  | cons n _ ih =>
    refine ih (le.trans ?_)
    unfold link
    omega
  | cons_cons n _ ih =>
    refine ih ?_
    unfold link
    omega

/-- A chain of fewer terms is no deeper. -/
lemma chainDepth_sublist {list list' : List Nat} (fewer : list'.Sublist list) : chainDepth list' ≤ chainDepth list := by
  induction fewer with
  | slnil => exact le_rfl
  | @cons list' list n fewer ih =>
    refine ih.trans ?_
    cases list with
    | nil => exact Nat.zero_le _
    | cons first rest =>
      exact foldl_link_sublist (List.Sublist.refl rest) (Nat.le_succ_of_le (le_max_right n first))
  | cons_cons n fewer _ => exact foldl_link_sublist fewer le_rfl

/-! ## Parts of a query -/

/-- Whether a query reads no columns and no ranges, and of the rest of another query a part: some snapshots and
levels, and the last predicates. -/
structure Query.IsPart (q' q : Query) : Prop where
  snapshots : q'.plan.snapshots.Subperm q.plan.snapshots
  ranges : q'.plan.ranges = []
  levels : q'.plan.levels.Subperm q.plan.levels
  columns : q'.columns = []
  predicates : q'.predicates <:+ q.predicates

namespace Query

variable {q q' : Query}

/-- The query without its columns, their ranges and its first predicates. -/
def bare (q : Query) (predicates : List Predicate) : Query := ⟨{ q.plan with ranges := [] }, [], predicates⟩

lemma conjuncts_bare {predicates : List Predicate} (fewer : predicates.Sublist q.predicates) :
    (q.bare predicates).conjuncts.Sublist q.conjuncts := by
  unfold conjuncts
  exact ((fewer.flatMap _).append_right _).append (List.nil_sublist _)

/-- The database takes a query without its columns. -/
lemma isTaken_bare {predicates : List Predicate} (fewer : predicates.Sublist q.predicates) {actorTable : String}
    (taken : (q.plan.isJoinable actorTable && q.isWithinLimits) = true) :
    ((q.bare predicates).plan.isJoinable actorTable && (q.bare predicates).isWithinLimits) = true := by
  unfold JoinPlan.isJoinable isWithinLimits at taken ⊢
  simp only [Bool.and_eq_true, decide_eq_true_eq] at taken ⊢
  obtain ⟨⟨few, distinct⟩, ⟨⟨deep, -⟩, names⟩, places⟩ := taken
  have conjuncts := conjuncts_bare fewer
  refine ⟨⟨lt_of_le_of_lt ?_ few, distinct.sublist ?_⟩, ⟨⟨?_, Nat.zero_le _⟩, le_trans ?_ names⟩, le_trans ?_ places⟩
  · exact Nat.add_le_add_left (Nat.zero_le _) _
  · refine List.Sublist.map _ (List.Sublist.cons_cons _ ?_)
    exact (List.Sublist.refl _).append (List.nil_sublist _)
  · refine le_trans ?_ (le_trans (foldl_max_le_iff.1 (le_refl q.depth)).1 deep)
    show (q.bare predicates).conditionDepth ≤ q.conditionDepth
    refine Nat.add_le_add (chainDepth_sublist (conjuncts.map _)) (foldl_max_le_iff.2 ⟨Nat.zero_le _, fun n listed => ?_⟩)
    exact (foldl_max_le_iff.1 le_rfl).2 n ((conjuncts.map _).subset listed)
  · unfold columnNames selected
    simp only [List.length_append, List.length_map]
    show _ + 0 + (0 + _) ≤ _
    exact Nat.add_le_add (Nat.add_le_add_left (Nat.zero_le _) _) (Nat.add_le_add_right (Nat.zero_le _) _)
  · unfold Query.places
    rw [foldl_add_eq_sum, foldl_add_eq_sum]
    refine List.Sublist.sum_le_sum ?_ fun _ _ => Nat.zero_le _
    refine List.Sublist.append (List.Sublist.append (List.Sublist.append ?_ (fewer.map _)) (List.Sublist.refl _))
      (List.nil_sublist _)
    exact List.sublist_append_right _ _

namespace IsPart

/-- The database takes a part of a query that it takes. -/
lemma isTaken (h : q'.IsPart q) {actorTable : String}
    (taken : (q.plan.isJoinable actorTable && q.isWithinLimits) = true) :
    (q'.plan.isJoinable actorTable && q'.isWithinLimits) = true := by
  have smaller : q'.NoLarger (q.bare q'.predicates) := by
    refine ⟨⟨h.snapshots, h.ranges, h.levels⟩, ?_, List.forall₂_same.2 fun p _ => ⟨?_, le_rfl⟩⟩
    · rw [h.columns]
      exact .nil
    · exact List.forall₂_same.2 fun c _ => ⟨le_rfl, le_rfl⟩
  exact smaller.isTaken actorTable (isTaken_bare h.predicates.sublist taken)

/-- The numbers of a part of a query are numbers of the query. -/
lemma parameters (h : q'.IsPart q) : q'.parameters ⊆ q.parameters := by
  intro n listed
  unfold Query.parameters at listed ⊢
  rw [h.columns, List.filterMap_nil, List.flatMap_nil, List.append_nil] at listed
  rcases List.mem_append.1 listed with plan | predicate
  · obtain ⟨k, read, own⟩ := List.mem_flatMap.1 plan
    exact List.mem_append_left _ (List.mem_append_left _ (List.mem_flatMap.2 ⟨k, h.snapshots.subset read, own⟩))
  · obtain ⟨p, asked, own⟩ := List.mem_flatMap.1 predicate
    exact List.mem_append_right _ (List.mem_flatMap.2 ⟨p, h.predicates.subset asked, own⟩)

/-- A database that runs a query runs each part of it. -/
lemma execute (h : q'.IsPart q) {db : Database} {s : Store} {n : Naming} {rows : List RawRow}
    (stored : db.store = some s) (executed : db.execute n q = .ok rows) :
    db.execute n q' = .ok (q'.rows s n.actorTable) := by
  obtain ⟨s', tables, executed⟩ := bind_eq_ok.1 executed
  obtain rfl : s = s' := Option.some.inj (stored.symm.trans (Database.store_of_tablesOf tables))
  split at executed
  · obtain ⟨_, executed, -⟩ := bind_eq_ok.1 executed
    cases executed
  rename_i taken
  rw [Bool.not_eq_true, Bool.not_eq_false'] at taken
  obtain ⟨_, fits, -⟩ := bind_eq_ok.1 executed
  have fits' : Database.checkIntegers q'.parameters = .ok () := by
    unfold Database.checkIntegers at fits ⊢
    split at fits
    · rename_i all
      exact if_pos (List.all_eq_true.2 fun n listed => List.all_eq_true.1 all n (h.parameters listed))
    · cases fits
  unfold Database.execute
  rw [tables]
  show (if !(q'.plan.isJoinable n.actorTable && q'.isWithinLimits) then _ else
    Database.checkIntegers q'.parameters >>= fun _ => .ok (q'.rows s n.actorTable)) = _
  rw [h.isTaken taken, fits']
  rfl

end IsPart

/-- Whether the predicates of a query look at nothing but snapshots of its plan. -/
def ReadsOwn (q : Query) : Prop :=
  ∀ predicate ∈ q.predicates, (∀ k ∈ predicate.snapshots, k ∈ q.plan.snapshots) ∧ predicate.ranges = []

end Query

/-! ## Rows -/

namespace Store

variable {s : Store} {n : Naming} {q q' : Query} {a : Actor} {j : JoinedRow}

/-- What holds in the row of an actor holds in the one that a part of the query joins. -/
lemma holds_joinedRow_of_isPart (part : q'.IsPart q) (own : q'.ReadsOwn) {predicate : Predicate}
    (asked : predicate ∈ q'.predicates) :
    predicate.holds s (s.joinedRow n.actorTable q'.plan a) = predicate.holds s (s.joinedRow n.actorTable q.plan a) := by
  obtain ⟨reads, noRanges⟩ := own predicate asked
  refine Predicate.holds_congr rfl (fun k read => ?_) fun k read => ?_
  · rw [snapshot?_joinedRow (reads k read), snapshot?_joinedRow (part.snapshots.subset (reads k read))]
  · rw [noRanges] at read
    cases read

/-- Whom a plan keeps a part of it keeps. -/
lemma keeps_of_isPart (part : q'.IsPart q) (kept : s.keeps n.actorTable q.plan a.id = true) :
    s.keeps n.actorTable q'.plan a.id = true := by
  obtain ⟨rows, -⟩ := keeps_iff.1 kept
  refine keeps_iff.2 ⟨fun day listed => rows day (part.snapshots.subset listed), fun activity day listed => ?_⟩
  rw [part.ranges] at listed
  cases listed

namespace WellKeyed

/-- A row matches when it is the one of an actor who is kept and for whom all predicates hold. -/
lemma joinedRow_mem_matching (keyed : s.WellKeyed) {q : Query} :
    s.joinedRow n.actorTable q.plan a ∈ q.matching s n.actorTable ↔
      (a ∈ s.actors ∧ s.keeps n.actorTable q.plan a.id = true) ∧
        ∀ predicate ∈ q.predicates, predicate.holds s (s.joinedRow n.actorTable q.plan a) = true := by
  rw [Query.mem_matching, keyed.joined_eq]
  refine and_congr_left' ⟨fun found => ?_, fun kept => List.mem_map_of_mem (List.mem_filter.2 kept)⟩
  obtain ⟨a', kept, same⟩ := List.mem_map.1 found
  obtain rfl : a' = a := congrArg JoinedRow.actor same
  exact List.mem_filter.1 kept

/-- Whoever matches a query matches each part of it. -/
lemma matching_of_isPart (keyed : s.WellKeyed) (part : q'.IsPart q) (own : q'.ReadsOwn)
    (matched : s.joinedRow n.actorTable q.plan a ∈ q.matching s n.actorTable) :
    s.joinedRow n.actorTable q'.plan a ∈ q'.matching s n.actorTable := by
  obtain ⟨⟨known, kept⟩, all⟩ := keyed.joinedRow_mem_matching.1 matched
  refine keyed.joinedRow_mem_matching.2 ⟨⟨known, keeps_of_isPart part kept⟩, fun predicate asked => ?_⟩
  rw [holds_joinedRow_of_isPart part own asked]
  exact all predicate (part.predicates.subset asked)

/-- Nobody else matches a part that asks for all that everybody must have, and for all predicates. -/
lemma matching_iff_of_isPart (keyed : s.WellKeyed) (part : q'.IsPart q) (own : q'.ReadsOwn)
    (predicates : q.predicates = q'.predicates)
    (ends : ∀ day, (⟨.actor, .finish, day, .whole⟩ : SnapshotKey) ∈ q.plan.snapshots →
      (⟨.actor, .finish, day, .whole⟩ : SnapshotKey) ∈ q'.plan.snapshots)
    (noRanges : ∀ activity day, (⟨.activity activity, day⟩ : RangeKey) ∉ q.plan.ranges) :
    s.joinedRow n.actorTable q.plan a ∈ q.matching s n.actorTable ↔
      s.joinedRow n.actorTable q'.plan a ∈ q'.matching s n.actorTable := by
  refine ⟨keyed.matching_of_isPart part own, fun matched => ?_⟩
  obtain ⟨⟨known, kept⟩, all⟩ := keyed.joinedRow_mem_matching.1 matched
  obtain ⟨rows, -⟩ := keeps_iff.1 kept
  refine keyed.joinedRow_mem_matching.2 ⟨⟨known, keeps_iff.2 ⟨fun day listed => rows day (ends day listed), ?_⟩⟩, ?_⟩
  · exact fun activity day listed => absurd listed (noRanges activity day)
  · intro predicate asked
    rw [predicates] at asked
    rw [← holds_joinedRow_of_isPart part own asked]
    exact all predicate asked

end WellKeyed

end Store

/-! ## Requests without columns -/

/-- The request without its columns. -/
def Request.withoutColumns (r : Request) : Request := { r with columns := [] }

/-- Whether actors are dropped who lack what is needed: the end of an actor's whole activity, or the range of an
activity. -/
def Need.dropsActors : Need → Bool
  | .snapshot k => k.dimension == .actor && k.boundary == .finish && k.scope == .whole
  | .level l => l.boundary == .finish
  | .range ⟨.activity _, _⟩ => true
  | .range ⟨.logFilter _, _⟩ => false

/-- Whether a column plans neither the end of an actor's whole activity nor the range of an activity. -/
def Column.KeepsActors (w : Window) (c : Column) : Prop := ∀ need ∈ c.needs w, need.dropsActors = false

/-- The kinds of columns that plan neither: those that are filled in after the query, those on the registration,
those of namespaces, change tags or log filters that are no share of the actor's own edits, and the level at the
first day. -/
def ColumnType.keepsActors : ColumnType → Bool
  | .rowNumber | .userName | .userGroups | .registrationDate | .daysSinceRegistration => true
  | .count _ _ ratio form => form != .whole && ratio != .ownTotalEdits
  | .logDate _ => true
  | .level .start => true
  | _ => false

/-- The scopes of a column are of the form that its type asks for. -/
lemma Column.whole_not_mem_scopes {c : Column} {counter : Counter} {span : Span} {ratio : Ratio} {form : ScopeForm}
    (type : c.type = .count counter span ratio form) (notWhole : form ≠ .whole) : .whole ∉ c.scopes := by
  obtain ⟨_, id, parameter, more, fits⟩ := c
  obtain rfl := type
  cases form with
  | whole => exact absurd rfl notWhole
  | _ =>
    simp only [ColumnType.shape, ScopeForm.shape] at fits
    cases parameter with
    | milestones => cases fits
    | scopes s =>
      cases s with
      | whole => cases fits
      | _ => simp [Column.scopes, Scopes.toList]

/-- A value over a span drops nobody when it is the wiki's or of a part of an actor's activity. -/
lemma Window.dropsActors_of_mem_needSpan {w : Window} {d : Dimension} {span : Span} {scope : Scope} {need : Need}
    (listed : need ∈ w.needSpan d span scope) (other : d = .wiki ∨ scope ≠ .whole) : need.dropsActors = false := by
  have snapshot : ∀ boundary day, (Need.snapshot ⟨d, boundary, day, scope⟩).dropsActors = false := by
    intro boundary day
    rcases other with rfl | part
    · rfl
    · show (_ && scope == .whole) = false
      rw [beq_false_of_ne part, Bool.and_false]
  unfold needSpan needBefore needFinish at listed
  split at listed
  · rcases List.mem_append.1 listed with before | finish
    · split at before
      · rw [List.mem_singleton.1 before]
        exact snapshot _ _
      · cases before
    · rw [List.mem_singleton.1 finish]
      exact snapshot _ _
  · rw [List.mem_singleton.1 listed]
    exact snapshot _ _

/-- Columns of these kinds keep all actors. -/
lemma Column.keepsActors_of_type {w : Window} {c : Column} (kind : c.type.keepsActors = true) : c.KeepsActors w := by
  intro need listed
  unfold needs at listed
  cases type : c.type with
  | rowNumber | userName | userGroups | registrationDate | daysSinceRegistration =>
    rw [type] at listed
    cases listed
  | count counter span ratio form =>
    simp only [type, ColumnType.keepsActors, Bool.and_eq_true, bne_iff_ne] at kind
    obtain ⟨notWhole, notOwn⟩ := kind
    simp only [type, if_neg notOwn, List.append_nil] at listed
    obtain ⟨scope, own, listed⟩ := List.mem_flatMap.1 listed
    rcases List.mem_append.1 listed with actors | wiki
    · exact Window.dropsActors_of_mem_needSpan actors
        (Or.inr fun whole => whole_not_mem_scopes type notWhole (whole ▸ own))
    · split at wiki
      · exact Window.dropsActors_of_mem_needSpan wiki (Or.inl rfl)
      · cases wiki
  | logDate edge =>
    rw [type] at listed
    obtain ⟨f, -, rfl⟩ := List.mem_map.1 listed
    rfl
  | level moment =>
    rw [type] at kind
    cases moment with
    | start =>
      rw [type] at listed
      obtain ⟨l, own, rfl⟩ := List.mem_map.1 listed
      obtain ⟨first, -, rfl⟩ := Option.map_eq_some_iff.1 (Option.mem_toList.1 own)
      rfl
    | _ => cases kind
  | _ =>
    rw [type] at kind
    cases kind

namespace Query

variable {r : Request} {q : Query}

/-- Without columns a request has a query that is a part of the one with them. -/
lemma ofRequest_withoutColumns (h : ofRequest r = .ok q) :
    ∃ q', ofRequest r.withoutColumns = .ok q' ∧ q'.IsPart q ∧ q'.ReadsOwn ∧
      (∀ l ∈ q'.plan.levels, l.key ∈ q'.plan.snapshots) ∧ ((∀ c ∈ r.columns, c.moreThanZero = false) →
        (∀ c ∈ r.columns, c.KeepsActors r.window) → q.predicates = q'.predicates ∧
          (∀ day, (⟨.actor, .finish, day, .whole⟩ : SnapshotKey) ∈ q.plan.snapshots →
            (⟨.actor, .finish, day, .whole⟩ : SnapshotKey) ∈ q'.plan.snapshots) ∧
          ∀ activity day, (⟨.activity activity, day⟩ : RangeKey) ∉ q.plan.ranges) := by
  obtain ⟨p, planned, built⟩ := bind_eq_ok.1 h
  obtain ⟨needs, needed, rfl⟩ := JoinPlan.ofRequest_eq_ok.1 (mapError_eq_ok.1 planned)
  obtain ⟨predicates, required, rfl⟩ := ofPlan_eq_ok.1 built
  -- what is asked for without columns is what the conditions need
  have all : needs.flatten ⊆ r.columns.flatMap (·.needs r.window) ++ needs.flatten := List.subset_append_right _ _
  obtain ⟨nodup, -, nodup'⟩ := JoinPlan.nodup_ofNeeds needs.flatten
  have noRanges : ∀ key, .range key ∉ needs.flatten := by
    intro key listed
    obtain ⟨list, mem, own⟩ := List.mem_flatten.1 listed
    obtain ⟨c, -, needed⟩ := (mem_of_mapM_eq_ok needed).1 mem
    exact c.range_not_mem_needs needed own
  refine ⟨⟨JoinPlan.ofNeeds needs.flatten, [], predicates.filterMap id⟩, ?_, ⟨?_, ?_, ?_, rfl, ?_⟩, ?_, ?_, ?_⟩
  · refine bind_eq_ok.2 ⟨_, mapError_eq_ok.2 (JoinPlan.ofRequest_eq_ok.2 ⟨needs, needed, rfl⟩), ?_⟩
    exact ofPlan_eq_ok.2 ⟨predicates, required, rfl⟩
  · refine List.subperm_of_subset nodup fun k listed => JoinPlan.mem_snapshots_ofNeeds.2 ?_
    exact (JoinPlan.mem_snapshots_ofNeeds.1 listed).imp (fun own => all own) fun ⟨l, own, same⟩ => ⟨l, all own, same⟩
  · exact List.eq_nil_iff_forall_not_mem.2 fun key listed => noRanges key (JoinPlan.mem_ranges_ofNeeds.1 listed)
  · refine List.subperm_of_subset nodup' fun l listed => JoinPlan.mem_levels_ofNeeds.2 ?_
    exact all (JoinPlan.mem_levels_ofNeeds.1 listed)
  · exact List.suffix_append _ _
  · intro predicate asked
    refine ⟨fun k read => ?_, List.eq_nil_iff_forall_not_mem.2 fun key => ?_⟩
    · exact JoinPlan.mem_snapshots_ofNeeds.2 (Or.inl ((snapshot_mem_required needed required).2 ⟨predicate, asked, read⟩))
    · obtain ⟨_, mem, rfl⟩ := List.mem_filterMap.1 asked
      obtain ⟨c, -, own⟩ := (mem_of_mapM_eq_ok required).1 mem
      exact c.range_not_mem_predicate own
  · exact fun l listed => JoinPlan.key_mem_ofNeeds listed
  · intro plain keeping
    -- a snapshot of whole activity that no column asks for is one that a condition asks for
    refine ⟨?_, fun day listed => ?_, fun activity day listed => ?_⟩
    · have none : r.columns.flatMap (·.predicates r.window) = [] := by
        refine List.flatMap_eq_nil_iff.2 fun c listed => ?_
        rw [Column.predicates, plain c listed]
        rfl
      rw [none]
      rfl
    · refine JoinPlan.mem_snapshots_ofNeeds.2 ?_
      rcases JoinPlan.mem_snapshots_ofNeeds.1 listed with found | ⟨⟨boundary, day'⟩, found, same⟩
      · refine Or.inl ((List.mem_append.1 found).resolve_left fun column => ?_)
        obtain ⟨c, asked, own⟩ := List.mem_flatMap.1 column
        exact Bool.noConfusion (keeping c asked _ own)
      · cases same
        refine Or.inr ⟨_, (List.mem_append.1 found).resolve_left fun column => ?_, rfl⟩
        obtain ⟨c, asked, own⟩ := List.mem_flatMap.1 column
        exact Bool.noConfusion (keeping c asked _ own)
    · rcases List.mem_append.1 (JoinPlan.mem_ranges_ofNeeds.1 listed) with column | condition
      · obtain ⟨c, asked, own⟩ := List.mem_flatMap.1 column
        exact Bool.noConfusion (keeping c asked _ own)
      · exact noRanges _ condition

end Query

end ActivityReport
