import ActivityReport.Proofs.Plan.Coverage
import ActivityReport.Proofs.Plan.Hiding
import ActivityReport.Proofs.Store.Latest
import ActivityReport.Query.Joined

/-!
# Joins

What becomes of an actor when the rows that a plan reads are joined to it, in a store without double
keys. A join finds one partner at most, so it keeps the row that is there or drops it
(`Store.joinSnapshot_eq`, `Store.joinRange_eq`); by induction on the keys the joined rows are those of
the actors that no join drops, one for each (`Store.WellKeyed.joined_eq`). Only the end of an actor's
whole activity and the ranges of an activity ever drop an actor.
-/

namespace ActivityReport

/-! ## One join -/

/-- A join that finds one partner at most keeps it, or keeps the row alone when it is outer. -/
lemma partners_toList {α : Type} (outer : Bool) (found : Option α) :
    partners outer found.toList = if outer || found.isSome then [found] else [] := by
  cases found with
  | none => cases outer <;> rfl
  | some a =>
    rw [Option.isSome_some, Bool.or_true, if_pos rfl]
    rfl

/-- Among items made from keys, the one of a listed key is found. -/
lemma JoinedRow.find?_map {α β : Type} [DecidableEq α] (value : α → Option β) {key : α} {keys : List α}
    (listed : key ∈ keys) : find? key (keys.map fun k => (k, value k)) = value key := by
  induction keys with
  | nil => cases listed
  | cons k rest ih =>
    rw [List.map_cons, find?]
    split
    · rename_i same
      rw [same]
    · rename_i other
      rcases List.mem_cons.1 listed with same | listed
      · exact absurd same.symm other
      · exact ih listed

/-- The only snapshot that must be there is the end of an actor's whole activity. -/
lemma SnapshotKey.isOuter_eq_false_iff {k : SnapshotKey} :
    k.isOuter = false ↔ ∃ day, k = ⟨.actor, .finish, day, .whole⟩ := by
  obtain ⟨dimension, boundary, day, scope⟩ := k
  cases dimension <;> cases boundary <;> simp [isOuter]

namespace Store

variable {s : Store} {actorTable : String} {p : JoinPlan} {r : JoinedRow}

/-- Whether the joins of a plan keep an actor. -/
def keeps (s : Store) (actorTable : String) (p : JoinPlan) (actorId : Int) : Bool :=
  (p.snapshots.all fun k => k.isOuter || (s.snapshotRow? actorTable k actorId).isSome) &&
    p.ranges.all fun k => k.isOuter || (s.range? k actorId).isSome

/-- An actor with all that a plan reads on its behalf. -/
def joinedRow (s : Store) (actorTable : String) (p : JoinPlan) (a : Actor) : JoinedRow where
  actor := a
  snapshots := p.snapshots.map fun k => (k, s.snapshotRow? actorTable k a.id)
  ranges := p.ranges.map fun k => (k, s.range? k a.id)

/-- A snapshot is added to a row, or the row is dropped. -/
lemma WellKeyed.joinSnapshot_eq (keyed : s.WellKeyed) (k : SnapshotKey) :
    s.joinSnapshot actorTable r k =
      if k.isOuter || (s.snapshotRow? actorTable k r.actor.id).isSome then
        [{ r with snapshots := r.snapshots ++ [(k, s.snapshotRow? actorTable k r.actor.id)] }]
      else [] := by
  rw [joinSnapshot, keyed.snapshotRows_eq, partners_toList]
  split <;> rfl

/-- A range is added to a row, or the row is dropped. -/
lemma joinRange_eq (k : RangeKey) :
    s.joinRange r k =
      if k.isOuter || (s.range? k r.actor.id).isSome then
        [{ r with ranges := r.ranges ++ [(k, s.range? k r.actor.id)] }]
      else [] := by
  rw [joinRange, partners_toList]
  split <;> rfl

/-! ## All joins -/

/-- Nothing joined with anything is nothing. -/
lemma joinAll_nil {κ : Type} (join : JoinedRow → κ → List JoinedRow) (keys : List κ) :
    joinAll join keys [] = [] := by
  unfold joinAll
  induction keys with
  | nil => rfl
  | cons k rest ih => rw [List.foldl_cons, List.flatMap_nil, ih]

/-- A row is joined with the first key, and what comes of it with the others. -/
lemma joinAll_cons {κ : Type} (join : JoinedRow → κ → List JoinedRow) (k : κ) (rest : List κ) :
    joinAll join (k :: rest) [r] = joinAll join rest (join r k) := by
  rw [joinAll, List.foldl_cons, List.flatMap_singleton]
  rfl

/-- All snapshots are added to a row, or the row is dropped. -/
lemma WellKeyed.joinAll_joinSnapshot (keyed : s.WellKeyed) (keys : List SnapshotKey) (r : JoinedRow) :
    joinAll (s.joinSnapshot actorTable) keys [r] =
      if keys.all fun k => k.isOuter || (s.snapshotRow? actorTable k r.actor.id).isSome then
        [{ r with snapshots := r.snapshots ++ keys.map fun k => (k, s.snapshotRow? actorTable k r.actor.id) }]
      else [] := by
  induction keys generalizing r with
  | nil => simp [joinAll]
  | cons k rest ih =>
    rw [joinAll_cons, keyed.joinSnapshot_eq, List.all_cons]
    cases k.isOuter || (s.snapshotRow? actorTable k r.actor.id).isSome with
    | false => exact joinAll_nil _ _
    | true =>
      rw [if_pos rfl, ih, Bool.true_and]
      simp

/-- All ranges are added to a row, or the row is dropped. -/
lemma joinAll_joinRange (keys : List RangeKey) (r : JoinedRow) :
    joinAll s.joinRange keys [r] =
      if keys.all fun k => k.isOuter || (s.range? k r.actor.id).isSome then
        [{ r with ranges := r.ranges ++ keys.map fun k => (k, s.range? k r.actor.id) }]
      else [] := by
  induction keys generalizing r with
  | nil => simp [joinAll]
  | cons k rest ih =>
    rw [joinAll_cons, joinRange_eq, List.all_cons]
    cases k.isOuter || (s.range? k r.actor.id).isSome with
    | false => exact joinAll_nil _ _
    | true =>
      rw [if_pos rfl, ih, Bool.true_and]
      simp

/-- What a property of rows keeps through each join it keeps through all. -/
lemma joinAll_induction {κ : Type} {join : JoinedRow → κ → List JoinedRow} (holds : List κ → JoinedRow → Prop)
    (step : ∀ done r k, holds done r → ∀ j ∈ join r k, holds (done ++ [k]) j) (keys done : List κ)
    {rows : List JoinedRow} (start : ∀ r ∈ rows, holds done r) :
    ∀ j ∈ joinAll join keys rows, holds (done ++ keys) j := by
  induction keys generalizing done rows with
  | nil => simpa [joinAll] using start
  | cons k rest ih =>
    have next : ∀ j ∈ rows.flatMap (join · k), holds (done ++ [k]) j := by
      intro j found
      obtain ⟨r, listed, partner⟩ := List.mem_flatMap.1 found
      exact step done r k (start r listed) j partner
    rw [show done ++ k :: rest = done ++ [k] ++ rest by simp]
    exact ih (done ++ [k]) next

/-- Every joined row carries every key of the plan, in order, with or without a row. -/
lemma keys_of_mem_joined {j : JoinedRow} (h : j ∈ s.joined actorTable p) :
    j.snapshots.map Prod.fst = p.snapshots ∧ j.ranges.map Prod.fst = p.ranges := by
  obtain ⟨a, -, h⟩ := List.mem_flatMap.1 h
  refine joinAll_induction (fun done j => j.snapshots.map Prod.fst = p.snapshots ∧ j.ranges.map Prod.fst = done)
    ?_ p.ranges [] ?_ j h
  · intro done r k ⟨snapshots, ranges⟩ j partner
    obtain ⟨days, -, rfl⟩ := List.mem_map.1 partner
    exact ⟨snapshots, by simp [ranges]⟩
  · refine joinAll_induction (fun done j => j.snapshots.map Prod.fst = done ∧ j.ranges.map Prod.fst = [])
      ?_ p.snapshots [] ?_
    · intro done r k ⟨snapshots, ranges⟩ j partner
      obtain ⟨row, -, rfl⟩ := List.mem_map.1 partner
      exact ⟨by simp [snapshots], ranges⟩
    · intro r only
      rw [List.mem_singleton.1 only]
      exact ⟨rfl, rfl⟩

namespace WellKeyed

/-- An actor that is kept has one joined row, any other has none. -/
lemma joinActor_eq (keyed : s.WellKeyed) (a : Actor) :
    s.joinActor actorTable p a = if s.keeps actorTable p a.id then [s.joinedRow actorTable p a] else [] := by
  rw [joinActor, keyed.joinAll_joinSnapshot, keeps, show (JoinedRow.ofActor a).actor = a from rfl]
  by_cases kept : (p.snapshots.all fun k => k.isOuter || (s.snapshotRow? actorTable k a.id).isSome) = true
  · rw [if_pos kept, joinAll_joinRange, kept, Bool.true_and]
    rfl
  · rw [if_neg kept, joinAll_nil, if_neg]
    exact fun both => kept (Bool.and_eq_true_iff.1 both).1

/-- The joined rows are those of the actors that are kept. -/
theorem joined_eq (keyed : s.WellKeyed) :
    s.joined actorTable p =
      (s.actors.filter fun a => s.keeps actorTable p a.id).map (s.joinedRow actorTable p) := by
  unfold joined
  induction s.actors with
  | nil => rfl
  | cons a rest ih =>
    rw [List.flatMap_cons, ih, keyed.joinActor_eq, List.filter_cons]
    split <;> rfl

end WellKeyed

/-- A joined row has under each snapshot of the plan what is found for its actor. -/
lemma snapshot?_joinedRow {a : Actor} {k : SnapshotKey} (planned : k ∈ p.snapshots) :
    (s.joinedRow actorTable p a).snapshot? k = s.snapshotRow? actorTable k a.id :=
  JoinedRow.find?_map (fun k => s.snapshotRow? actorTable k a.id) planned

/-- A joined row has under each range of the plan the actor's own range. -/
lemma range?_joinedRow {a : Actor} {k : RangeKey} (planned : k ∈ p.ranges) :
    (s.joinedRow actorTable p a).range? k = s.range? k a.id :=
  JoinedRow.find?_map (fun k => s.range? k a.id) planned

/-! ## Who is kept -/

/-- Whether an actor has a row of its whole activity up to a day. -/
def HasRowBy (s : Store) (actorId : Int) (day : Date) : Prop :=
  ∃ row ∈ s.counters, row.subject = some actorId ∧ row.scope = .whole ∧ row.date ≤ day

/-- Whether an actor was active in one way on some day up to another. -/
def IsActiveBy (s : Store) (actorId : Int) (activity : Activity) (day : Date) : Prop :=
  ∃ row ∈ s.counters, row.subject = some actorId ∧ row.scope = .whole ∧ row.date ≤ day ∧
    0 < row.daily activity.counter

/-- No row of a key is lost unless its scope is a filter of log events. -/
lemma snapshotRow?_of_not_logged {k : SnapshotKey} (notLogged : ∀ f, k.scope ≠ .logged f) (n : Naming)
    (actorId : Int) : s.snapshotRow? n.actorTable k actorId = s.latestRow? k actorId := by
  rw [snapshotRow?, loses, SnapshotKey.hidesActors_eq_false notLogged]
  rfl

/-- Only rows of a log filter are lost, and none with tables of the usual version. -/
lemma logged_of_loses {n : Naming} {k : SnapshotKey} {actorId : Int} (lost : s.loses n.actorTable k actorId = true) :
    (∃ f, k.scope = .logged f) ∧ n.suffix ≠ "_v2" := by
  rw [loses, Bool.and_eq_true] at lost
  refine ⟨?_, fun version => ?_⟩
  · by_contra notLogged
    rw [SnapshotKey.hidesActors_eq_false (fun f same => notLogged ⟨f, same⟩)] at lost
    cases lost.1
  · rw [SnapshotKey.hidesActors_of_version version] at lost
    cases lost.1

/-- The end of an actor's whole activity is there when the actor has a row up to the day. -/
lemma isSome_latestRow?_finish {actorId : Int} {day : Date} :
    (s.latestRow? ⟨.actor, .finish, day, .whole⟩ actorId).isSome = true ↔ s.HasRowBy actorId day := by
  rw [latestRow?_isSome_iff]
  simp only [SnapshotKey.sees, subjectFor, Boundary.admits, Bool.and_eq_true, beq_iff_eq, decide_eq_true_eq,
    and_assoc]
  rfl

/-- The range of an activity is there when the actor was active up to the day. -/
lemma isSome_range?_activity {actorId : Int} {activity : Activity} {day : Date} :
    (s.range? ⟨.activity activity, day⟩ actorId).isSome = true ↔ s.IsActiveBy actorId activity day := by
  rw [← Option.ne_none_iff_isSome, ne_eq, range?, dayRange?_eq_none_iff, activeDays, List.map_eq_nil_iff,
    List.filter_eq_nil_iff]
  simp only [rowsOf, List.mem_filter, Bool.and_eq_true, beq_iff_eq, decide_eq_true_eq, RangeSource.scope,
    RangeSource.counter]
  unfold IsActiveBy
  grind

/-- An actor is kept when it has all rows that the ends of whole activity ask for and was active in all
ways that are asked for. -/
lemma keeps_iff {n : Naming} {actorId : Int} :
    s.keeps n.actorTable p actorId = true ↔
      (∀ day, (⟨.actor, .finish, day, .whole⟩ : SnapshotKey) ∈ p.snapshots → s.HasRowBy actorId day) ∧
        ∀ activity day, (⟨.activity activity, day⟩ : RangeKey) ∈ p.ranges → s.IsActiveBy actorId activity day := by
  rw [keeps, Bool.and_eq_true, List.all_eq_true, List.all_eq_true]
  refine and_congr ⟨fun all day planned => ?_, fun all k planned => ?_⟩
    ⟨fun all activity day planned => ?_, fun all k planned => ?_⟩
  · have found := all _ planned
    rw [snapshotRow?_of_not_logged (by simp)] at found
    exact isSome_latestRow?_finish.1 found
  · cases outer : k.isOuter with
    | true => rfl
    | false =>
      obtain ⟨day, rfl⟩ := SnapshotKey.isOuter_eq_false_iff.1 outer
      rw [snapshotRow?_of_not_logged (by simp)]
      exact isSome_latestRow?_finish.2 (all day planned)
  · exact isSome_range?_activity.1 (all _ planned)
  · obtain ⟨source, day⟩ := k
    cases source with
    | activity activity => exact isSome_range?_activity.2 (all activity day planned)
    | logFilter f => rfl

namespace WellKeyed

variable {n : Naming}

/-- The actors of the joined rows are those that are kept, in the order of the store. -/
lemma map_actor_joined (keyed : s.WellKeyed) :
    (s.joined actorTable p).map JoinedRow.actor = s.actors.filter fun a => s.keeps actorTable p a.id := by
  rw [keyed.joined_eq, List.map_map]
  exact List.map_id _

/-- A joined row is the one of its actor, who is in the store and is kept. -/
lemma eq_joinedRow_of_mem (keyed : s.WellKeyed) {j : JoinedRow} (found : j ∈ s.joined actorTable p) :
    j = s.joinedRow actorTable p j.actor ∧ j.actor ∈ s.actors ∧ s.keeps actorTable p j.actor.id = true := by
  rw [keyed.joined_eq] at found
  obtain ⟨a, kept, rfl⟩ := List.mem_map.1 found
  exact ⟨rfl, List.mem_filter.1 kept⟩

/-- No two joined rows are of one actor. -/
lemma nodup_joined (keyed : s.WellKeyed) : ((s.joined actorTable p).map (·.actor.id)).Nodup := by
  have sub : List.Sublist ((s.joined actorTable p).map (·.actor.id)) (s.actors.map Actor.id) := by
    rw [show (fun j : JoinedRow => j.actor.id) = Actor.id ∘ JoinedRow.actor from rfl, ← List.map_map,
      keyed.map_actor_joined]
    exact List.filter_sublist.map _
  exact keyed.actors.sublist sub

/-- Which actors are kept depends on nothing but the ends of whole activity and the ranges of an activity
that are read. -/
lemma map_actor_joined_congr (keyed : s.WellKeyed) {q : JoinPlan}
    (snapshots : ∀ day, (⟨.actor, .finish, day, .whole⟩ : SnapshotKey) ∈ q.snapshots ↔
      (⟨.actor, .finish, day, .whole⟩ : SnapshotKey) ∈ p.snapshots)
    (ranges : ∀ activity day, (⟨.activity activity, day⟩ : RangeKey) ∈ q.ranges ↔
      (⟨.activity activity, day⟩ : RangeKey) ∈ p.ranges) :
    (s.joined n.actorTable q).map JoinedRow.actor = (s.joined n.actorTable p).map JoinedRow.actor := by
  rw [keyed.map_actor_joined, keyed.map_actor_joined]
  refine List.filter_congr fun a _ => ?_
  rw [Bool.eq_iff_iff, keeps_iff, keeps_iff]
  simp only [snapshots, ranges]

/-- Under a snapshot of the plan there stands in a joined row what is found for its actor. -/
lemma snapshot?_of_mem (keyed : s.WellKeyed) {j : JoinedRow} (found : j ∈ s.joined actorTable p)
    {k : SnapshotKey} (planned : k ∈ p.snapshots) :
    j.snapshot? k = s.snapshotRow? actorTable k j.actor.id := by
  rw [(keyed.eq_joinedRow_of_mem found).1]
  exact snapshot?_joinedRow planned

/-- The row under a key is the latest row exactly when that is not lost; of a lost row nothing is left. -/
lemma snapshot?_eq_latestRow?_iff (keyed : s.WellKeyed) {j : JoinedRow} (found : j ∈ s.joined actorTable p)
    {k : SnapshotKey} (planned : k ∈ p.snapshots) :
    (j.snapshot? k = s.latestRow? k j.actor.id ↔ s.loses actorTable k j.actor.id = false) ∧
      (s.loses actorTable k j.actor.id = true → j.snapshot? k = none) := by
  rw [keyed.snapshot?_of_mem found planned, snapshotRow?]
  by_cases lost : s.loses actorTable k j.actor.id = true
  · rw [if_pos lost]
    refine ⟨⟨fun same => ?_, fun kept => absurd lost (by simp [kept])⟩, fun _ => rfl⟩
    rw [loses, ← same, Option.any_none, Bool.and_false]
  · rw [if_neg lost]
    exact ⟨⟨fun _ => Bool.eq_false_iff.2 lost, fun _ => rfl⟩, fun h => absurd h lost⟩

/-- What the joins of a request's plan bring. There is at most one row for each actor of the store. An
actor has one exactly when it has a row of its whole activity up to the day of every end that is read
without a scope, and was active up to the last day in every way whose range is read; any other key
neither removes nor doubles an actor. In a row there stands under each key the latest row of the key's
subject and scope on its side of its day, or nothing when there is none, as long as it is not lost; this
can befall the keys of log filters only, and with tables of the usual version none at all. -/
theorem joined_of_request (keyed : s.WellKeyed) {r : Request} (planned : JoinPlan.ofRequest r = .ok p)
    (n : Naming) :
    ((s.joined n.actorTable p).map (·.actor.id)).Nodup ∧
    (∀ a, (∃ j ∈ s.joined n.actorTable p, j.actor = a) ↔ a ∈ s.actors ∧
      (∀ day, (⟨.actor, .finish, day, .whole⟩ : SnapshotKey) ∈ p.snapshots → s.HasRowBy a.id day) ∧
      ∀ activity day, (⟨.activity activity, day⟩ : RangeKey) ∈ p.ranges →
        s.IsActiveBy a.id activity r.window.finish) ∧
    (∀ q : JoinPlan,
      (∀ day, (⟨.actor, .finish, day, .whole⟩ : SnapshotKey) ∈ q.snapshots ↔
        (⟨.actor, .finish, day, .whole⟩ : SnapshotKey) ∈ p.snapshots) →
      (∀ activity day, (⟨.activity activity, day⟩ : RangeKey) ∈ q.ranges ↔
        (⟨.activity activity, day⟩ : RangeKey) ∈ p.ranges) →
      (s.joined n.actorTable q).map (·.actor) = (s.joined n.actorTable p).map (·.actor)) ∧
    (∀ j ∈ s.joined n.actorTable p, ∀ k ∈ p.snapshots,
      (j.snapshot? k = s.latestRow? k j.actor.id ↔ s.loses n.actorTable k j.actor.id = false) ∧
      (s.loses n.actorTable k j.actor.id = true → j.snapshot? k = none)) ∧
    ∀ k actorId, s.loses n.actorTable k actorId = true → (∃ f, k.scope = .logged f) ∧ n.suffix ≠ "_v2" := by
  refine ⟨keyed.nodup_joined, fun a => ?_, fun q => keyed.map_actor_joined_congr, fun j found k listed =>
    keyed.snapshot?_eq_latestRow?_iff found listed, fun k actorId => logged_of_loses⟩
  have kept : (∃ j ∈ s.joined n.actorTable p, j.actor = a) ↔
      a ∈ s.actors ∧ s.keeps n.actorTable p a.id = true := by
    rw [← List.mem_map, keyed.map_actor_joined, List.mem_filter]
  rw [kept, keeps_iff]
  refine and_congr_right fun _ => and_congr_right fun _ => ?_
  -- the ranges of a plan all go up to the last day
  refine forall_congr' fun activity => forall_congr' fun day => forall_congr' fun listed => ?_
  rw [show day = r.window.finish from JoinPlan.date_of_mem_ranges planned listed]

end WellKeyed

end Store

/-! ### A hidden table -/

/-- The fifth of May 2023. -/
def Date.mayFifth : Date := ⟨738645, by decide, by decide⟩

/-- The fifth of June 2023. -/
def Date.juneFifth : Date := ⟨738676, by decide, by decide⟩

/-- Two actors with log events of one type, the second one's on a later day; the first one is in a group. -/
def Store.ofHiddenType : Store where
  actors := [⟨1, "A", true, none⟩, ⟨2, "B", true, none⟩]
  counters :=
    [⟨some 1, .logged (.ofType "_actor"), Date.mayFifth, fun _ => 1, fun _ => 0⟩,
     ⟨some 2, .logged (.ofType "_actor"), Date.juneFifth, fun _ => 4, fun _ => 0⟩]
  groups := [(1, "g")]
  templates := []

/-- Names under which a copy of the table of that type is called like the table of actors. -/
def Naming.ofHiddenType : Naming := ⟨"actorEnd_Lt_5f", "_20231231_asof"⟩

/-- A request for the log events of that type up to the last day of a year. -/
def Request.ofHiddenType : Request where
  wikiId := "actorEnd_Lt_5f"
  columns := [⟨.count .logEvents .sinceRegistration .none .logFilters, none,
    .scopes (.logFilters [.ofType "_actor"]), false, rfl⟩]
  requirements := none
  orderBy := []
  itemCount := none
  window := ⟨none, ⟨738885, by decide, by decide⟩⟩
  skipBots := false
  ladder := none
  ordered := by simp

namespace Store.WellKeyed

/-- Both actors are joined, though neither has a row of its whole activity. -/
theorem joined_of_hidden_type :
    Store.ofHiddenType.WellKeyed ∧ ∃ p, JoinPlan.ofRequest Request.ofHiddenType = .ok p ∧
      ∀ a ∈ Store.ofHiddenType.actors, ∃ j ∈ Store.ofHiddenType.joined Naming.ofHiddenType.actorTable p,
        j.actor = a := by
  have keyed : Store.ofHiddenType.WellKeyed := ⟨by decide, by decide, by decide, by decide⟩
  obtain ⟨p, planned, only⟩ : ∃ p, JoinPlan.ofRequest Request.ofHiddenType = .ok p ∧
      (∀ k ∈ p.snapshots, k.scope ≠ .whole) ∧ p.ranges = [] := ⟨_, rfl, by decide, rfl⟩
  refine ⟨keyed, p, planned, fun a listed => ?_⟩
  refine ((joined_of_request keyed planned Naming.ofHiddenType).2.1 a).2 ⟨listed, ?_, ?_⟩
  · exact fun day read => absurd rfl (only.1 _ read)
  · intro activity day read
    rw [only.2] at read
    cases read

/-- The row of the actor without the latest day of all is lost. -/
theorem joined_loses_hidden_type :
    Store.ofHiddenType.WellKeyed ∧ ∃ p, JoinPlan.ofRequest Request.ofHiddenType = .ok p ∧
      ∃ j ∈ Store.ofHiddenType.joined Naming.ofHiddenType.actorTable p, ∃ k ∈ p.snapshots,
        (Store.ofHiddenType.latestRow? k j.actor.id).isSome = true ∧ (j.snapshot? k).isNone = true := by
  refine ⟨⟨by decide, by decide, by decide, by decide⟩, _, rfl, ?_⟩
  decide +kernel

end Store.WellKeyed

end ActivityReport
