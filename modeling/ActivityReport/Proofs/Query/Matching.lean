import ActivityReport.Proofs.Query.Joined
import ActivityReport.Query.Evaluation

/-!
# Matching rows

The joined rows that a query keeps: those in which all predicates hold, each actor once, in the order of
actors. A total in such a row is the one of the store (`Store.amount`), taken from the latest row of its
key; a sum adds amounts up in the arithmetic of the store.
-/

namespace ActivityReport

namespace Amount

/-- The sum of some amounts, from the first one on. -/
def sum : List Amount → Amount
  | [] => .whole 0
  | a :: rest => rest.foldl add a

end Amount

namespace Sum

variable {r : JoinedRow}

/-- The value of a sum is that of what it reads. -/
lemma eval_congr {r' : JoinedRow} {a : Sum} (same : ∀ k ∈ a.snapshots, r.snapshot? k = r'.snapshot? k) :
    a.eval r = a.eval r' := by
  induction a with
  | none => rfl
  | total k counter => rw [eval, eval, same k (List.mem_singleton_self k)]
  | plus a b iha ihb | minus a b iha ihb =>
    rw [eval, eval, iha fun k own => same k (List.mem_append_left _ own),
      ihb fun k own => same k (List.mem_append_right _ own)]

/-- A chain of additions adds up the values of its parts. -/
lemma eval_foldl_plus (rest : List Sum) (a : Sum) :
    (rest.foldl plus a).eval r = (rest.map (eval r)).foldl Amount.add (a.eval r) := by
  induction rest generalizing a with
  | nil => rfl
  | cons b rest ih =>
    rw [List.foldl_cons, ih]
    rfl

/-- The value of a sum of sums is the sum of their values. -/
lemma eval_ofList (list : List Sum) : (ofList list).eval r = Amount.sum (list.map (eval r)) := by
  cases list with
  | nil => rfl
  | cons a rest => exact eval_foldl_plus rest a

/-- A sum over some items has the value of the sum of amounts that its parts have item by item. -/
lemma eval_ofList_map {α : Type} {part : α → Sum} {amount : α → Amount} {list : List α}
    (h : ∀ a ∈ list, (part a).eval r = amount a) : (ofList (list.map part)).eval r = Amount.sum (list.map amount) := by
  rw [eval_ofList, List.map_map]
  exact congrArg Amount.sum (List.map_congr_left h)

end Sum

/-- The value of an expression is that of what it reads, and of the actor. -/
lemma Expression.eval_congr {r r' : JoinedRow} {e : Expression} (actor : r.actor = r'.actor)
    (snapshots : ∀ k ∈ e.snapshots, r.snapshot? k = r'.snapshot? k)
    (ranges : ∀ k ∈ e.ranges, r.range? k = r'.range? k) : e.eval r = e.eval r' := by
  cases e with
  | amount s => rw [eval, eval, Sum.eval_congr snapshots]
  | share a b =>
    rw [eval, eval, Sum.eval_congr fun k own => snapshots k (List.mem_append_left _ own),
      Sum.eval_congr fun k own => snapshots k (List.mem_append_right _ own)]
  | milestone a b milestones =>
    rw [eval, eval, Sum.eval_congr fun k own => snapshots k (List.mem_append_left _ own),
      Sum.eval_congr fun k own => snapshots k (List.mem_append_right _ own)]
  | activityDay key edge => rw [eval, eval, ranges key (List.mem_singleton_self key)]
  | activityDays key => rw [eval, eval, ranges key (List.mem_singleton_self key)]
  | filterDay keys edge =>
    have days : (keys.map fun key => ((r.range? key).map edge.pick).getD edge.never) =
        keys.map fun key => ((r'.range? key).map edge.pick).getD edge.never :=
      List.map_congr_left fun key own => by rw [ranges key own]
    rw [eval, eval, days]
  | registrationDate => rw [eval, eval, actor]
  | daysSinceRegistration day => rw [eval, eval, actor]
  | nothing => rfl

/-- Whether a predicate holds is told by what it reads, and by the actor. -/
lemma Predicate.holds_congr {s : Store} {r r' : JoinedRow} {p : Predicate} (actor : r.actor = r'.actor)
    (snapshots : ∀ k ∈ p.snapshots, r.snapshot? k = r'.snapshot? k)
    (ranges : ∀ k ∈ p.ranges, r.range? k = r'.range? k) : p.holds s r = p.holds s r' := by
  cases p with
  | positive e => rw [holds, holds, Expression.eval_congr actor snapshots ranges]
  | bound comparison value count => rw [holds, holds, Sum.eval_congr snapshots]
  | crossed earlier later milestones =>
    rw [holds, holds, Sum.eval_congr fun k own => snapshots k (List.mem_append_left _ own),
      Sum.eval_congr fun k own => snapshots k (List.mem_append_right _ own)]
  | status statuses lastDay => cases statuses <;> simp only [holds, actor]
  | _ => simp only [holds, actor]

namespace Store

variable {s : Store} {actorTable : String} {p : JoinPlan} {q : Query} {j : JoinedRow}

/-- The total of a counter as of a key on behalf of an actor, in the store's arithmetic: the total of earlier
rows and the value of the day, both of the latest row; without a row it is 0. -/
def amount (s : Store) (k : SnapshotKey) (counter : Counter) (actorId : Int) : Amount :=
  match s.latestRow? k actorId with
  | some row => Amount.add (.whole (row.toDate counter)) (.whole (row.daily counter))
  | none => .whole 0

/-- A total without a row is 0. -/
lemma amount_eq_zero {k : SnapshotKey} {counter : Counter} {actorId : Int} (h : s.latestRow? k actorId = none) :
    s.amount k counter actorId = .whole 0 := by
  rw [amount, h]

/-- In the joined row of an actor a planned total that counts no filter of log events is the store's. -/
lemma eval_total_joinedRow {n : Naming} {a : Actor} {k : SnapshotKey} (planned : k ∈ p.snapshots)
    (notLogged : ∀ f, k.scope ≠ .logged f) (counter : Counter) :
    (Sum.total k counter).eval (s.joinedRow n.actorTable p a) = s.amount k counter a.id := by
  have row : (s.joinedRow n.actorTable p a).snapshot? k = s.snapshotRow? n.actorTable k a.id :=
    snapshot?_joinedRow planned
  rw [snapshotRow?_of_not_logged notLogged] at row
  cases latest : s.latestRow? k a.id <;> simp only [Sum.eval, amount, row, latest]

/-- So it is in each row that is joined. -/
lemma WellKeyed.eval_total (keyed : s.WellKeyed) {n : Naming} (found : j ∈ s.joined n.actorTable p)
    {k : SnapshotKey} (planned : k ∈ p.snapshots) (notLogged : ∀ f, k.scope ≠ .logged f) (counter : Counter) :
    (Sum.total k counter).eval j = s.amount k counter j.actor.id := by
  conv_lhs => rw [(keyed.eq_joinedRow_of_mem found).1]
  exact eval_total_joinedRow planned notLogged counter

end Store

namespace Query

variable {s : Store} {actorTable : String} {q : Query} {j : JoinedRow}

/-- A row matches when it is joined and all predicates hold in it. -/
lemma mem_matching : j ∈ q.matching s actorTable ↔
    j ∈ s.joined actorTable q.plan ∧ ∀ predicate ∈ q.predicates, predicate.holds s j = true := by
  rw [matching, List.mem_mergeSort, List.mem_filter, List.all_eq_true]

/-- The matching rows are of actors in ascending order, no two of them of one actor. -/
lemma pairwise_matching (keyed : s.WellKeyed) :
    (q.matching s actorTable).Pairwise fun a b => a.actor.id < b.actor.id := by
  have sorted : (q.matching s actorTable).Pairwise fun a b => decide (a.actor.id ≤ b.actor.id) = true :=
    List.pairwise_mergeSort (fun a b c => by simpa using Int.le_trans)
      (fun a b => by simpa using Int.le_total a.actor.id b.actor.id) _
  have nodup : ((q.matching s actorTable).map (·.actor.id)).Nodup := by
    rw [matching, ((List.mergeSort_perm _ _).map _).nodup_iff]
    exact keyed.nodup_joined.sublist (List.filter_sublist.map _)
  exact sorted.imp₂ (fun a b le ne => lt_of_le_of_ne (of_decide_eq_true le) ne) (List.pairwise_map.1 nodup)

end Query

end ActivityReport
