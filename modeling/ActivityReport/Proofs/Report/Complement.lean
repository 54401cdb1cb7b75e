import ActivityReport.Proofs.Report.Conditions
import ActivityReport.Proofs.Report.Escapes
import ActivityReport.Proofs.Report.Totals

/-!
# At least and at most

A request with a bound on a total besides its conditions lists those of its actors who have a row of their whole
activity up to the day of the bound, and whose total keeps to it (`Service.exists_ids_of_total`). So those with at
least one more than a count and those with at most the count are apart, and together they are all who have such a row
(`Service.complementary_of_compile`).
-/

namespace ActivityReport

open Number (fitsWord)
open Traced (ComesTo Yields)

/-! ## Two requests -/

namespace Threshold

/-- An un-scoped bound on the total of a counter at the day that an epoch names. -/
def ofTotal (counter : Counter) (comparison : Comparison) (count : Int) (epoch : Option Epoch) : Threshold :=
  ⟨counter, comparison, .whole, count, none, epoch⟩

variable {counter : Counter} {comparison : Comparison} {count : Int} {epoch : Option Epoch} {w : Window} {day : Date}

lemma needs_ofTotal (resolved : w.resolve epoch = .ok (some day)) :
    (ofTotal counter comparison count epoch).needs w = .ok [.snapshot ⟨.actor, .finish, day, .whole⟩] := by
  simp only [needs, ofTotal, resolved]
  rfl

lemma predicate?_ofTotal (resolved : w.resolve epoch = .ok (some day)) :
    (ofTotal counter comparison count epoch).predicate? w =
      .ok (some (.bound comparison (.total ⟨.actor, .finish, day, .whole⟩ counter) count)) := by
  simp only [predicate?, ofTotal, resolved]
  rfl

/-- An actor meets the bound who has a row up to the day and whose total keeps to it. -/
lemma meets_ofTotal_iff {s : Store} (resolved : w.resolve epoch = .ok (some day)) {ladder : Option Ladder} {a : Actor} :
    s.Meets w ladder a (.threshold (ofTotal counter comparison count epoch)) ↔ s.HasRowBy a.id day ∧
      Amount.meets comparison (s.amount ⟨.actor, .finish, day, .whole⟩ counter a.id) count = true := by
  simp only [Store.Meets, Store.MeetsThreshold, ofTotal, resolved, Except.ok.injEq, Option.some.injEq, forall_eq',
    forall_const]
  rfl

end Threshold

namespace Service

variable {x : Service} {s : Store} {r : Request}

/-- With a bound on a total besides its conditions a request lists those of its actors who have a row up to the day
and whose total keeps to the bound. -/
lemma exists_ids_of_total (stored : x.database.store = some s) (keyed : s.WellKeyed)
    (fits : ∀ n ∈ s.integers, fitsWord n = true) (countsNoLogs : ∀ c ∈ r.conditions, ¬ c.CountsLogs)
    (noColumns : r.columns = []) {counter : Counter} {comparison : Comparison} {count : Int} {epoch : Option Epoch}
    {day : Date} (resolved : r.window.resolve epoch = .ok (some day)) {r' : Request}
    (adds : r.Adds (.threshold (.ofTotal counter comparison count epoch)) r') (takes : x.Takes r')
    {bots : Option (List String)} {clock : List Float} {answer : Answer}
    (h : ((x.compile bots r).run clock).result = .ok answer) :
    ∃ ids, (x.compile bots r').Yields (.ids ids) ∧ fitsWord count = true ∧ ∀ id, id ∈ ids ↔
      id ∈ answer.actorIds ∧ s.HasRowBy id day ∧
        Amount.meets comparison (s.amount ⟨.actor, .finish, day, .whole⟩ counter id) count = true := by
  have unlogged : ¬ (Condition.threshold (.ofTotal counter comparison count epoch)).CountsLogs := by
    rintro ⟨f, own⟩
    simp [Threshold.ofTotal, Scopes.toList] at own
  obtain ⟨ladder, answer', -, compiled, -, words, -, same⟩ := answer_of_adds stored keyed fits adds
    (adds.forall_conditions.2 ⟨unlogged, countsNoLogs⟩) rfl (Threshold.needs_ofTotal resolved)
    (Threshold.predicate?_ofTotal resolved) takes h
  obtain ⟨ids, rfl⟩ := exists_ids_of_compile stored (adds.columns.trans noColumns) (compiled [])
  refine ⟨ids, compiled, words _ rfl count (List.mem_singleton_self _), fun id => (same (if_pos noColumns) id).trans ?_⟩
  simp only [Threshold.meets_ofTotal_iff resolved]
  refine and_congr_right fun listed => ⟨?_, fun meets => ?_⟩
  · rintro ⟨a, -, rfl, meets⟩
    exact meets
  · obtain ⟨a, known, rfl, -⟩ := passes_of_compile stored keyed h listed
    exact ⟨a, known, rfl, meets⟩

/-- At least one more than a count and at most the count: of the actors that a request without columns lists, those
who have a row of their whole activity up to the day of an epoch are listed with exactly one of the two bounds on a
total at that day, and nobody else is listed with either; the total may be that of any counter, and may be no word.
Both requests are answered if the database runs their queries. -/
theorem complementary_of_compile (stored : x.database.store = some s) (keyed : s.WellKeyed)
    (fits : ∀ n ∈ s.integers, fitsWord n = true) {json : Json} (parsed : Payload.readRequest json = .ok r)
    (noColumns : r.columns = []) {counter : Counter} {count : Int} {epoch : Option Epoch} {day : Date}
    (resolved : r.window.resolve epoch = .ok (some day)) {least most : Request}
    (addsLeast : r.Adds (.threshold (.ofTotal counter .atLeast (count + 1) epoch)) least)
    (addsMost : r.Adds (.threshold (.ofTotal counter .atMost count epoch)) most) (takesLeast : x.Takes least)
    (takesMost : x.Takes most) {bots : Option (List String)} {clock : List Float} {ids : List Int}
    (h : ((x.compile bots r).run clock).result = .ok (.ids ids)) :
    ∃ idsLeast idsMost, (x.compile bots least).Yields (.ids idsLeast) ∧ (x.compile bots most).Yields (.ids idsMost) ∧
      (∀ id ∈ ids, s.HasRowBy id day → (id ∈ idsLeast ↔ id ∉ idsMost)) ∧
      (∀ id ∈ ids, ¬ s.HasRowBy id day → id ∉ idsLeast ∧ id ∉ idsMost) ∧ idsLeast ⊆ ids ∧ idsMost ⊆ ids := by
  have countsNoLogs := Payload.not_countsLogs_of_readRequest parsed
  obtain ⟨idsLeast, yieldsLeast, next, hasLeast⟩ :=
    exists_ids_of_total stored keyed fits countsNoLogs noColumns resolved addsLeast takesLeast h
  obtain ⟨idsMost, yieldsMost, word, hasMost⟩ :=
    exists_ids_of_total stored keyed fits countsNoLogs noColumns resolved addsMost takesMost h
  refine ⟨idsLeast, idsMost, yieldsLeast, yieldsMost, fun id listed row => ?_, fun id listed noRow => ?_,
    fun id found => ((hasLeast id).1 found).1, fun id found => ((hasMost id).1 found).1⟩
  · have inIds : id ∈ (Answer.ids ids).actorIds := listed
    rw [hasLeast, hasMost, Store.meets_atMost_iff fits word next]
    tauto
  · exact ⟨fun found => noRow ((hasLeast id).1 found).2.1, fun found => noRow ((hasMost id).1 found).2.1⟩

end Service

/-! ### Two actors -/

/-- A payload of a request for the actors with three active days at most, and with a bound on the edits a week before
the end of the year. -/
def Json.ofRareEditors (bound : List (String × Json)) : Json :=
  .object [("wikiId", .text "w"), ("requirements", .object (bound ++ [("totalActiveDaysAtMost", .int 3)])),
    ("endDate", .text "2023-12-31")]

/-- A bound at a day a week before the last one. -/
def Json.ofWeekBefore (count : Int) : Json := .object [("count", .int count), ("epoch", .int (-7))]

namespace Service

/-- In the small store one actor has three active days at most. A week before the end of the year that actor has three
edits at most, and not four. -/
theorem complementary_of_small :
    ∃ r least most day idsLeast idsMost, Payload.readRequest (.ofRareEditors []) = .ok r ∧
      Payload.readRequest (.ofRareEditors [("totalEditsAtLeast", .ofWeekBefore 4)]) = .ok least ∧
      Payload.readRequest (.ofRareEditors [("totalEditsAtMost", .ofWeekBefore 3)]) = .ok most ∧
      r.window.resolve (some (.offset (-7))) = .ok (some day) ∧ Store.small.HasRowBy 1 day ∧
      ((Service.small.compile none r).run []).result = .ok (.ids [1]) ∧
      (Service.small.compile none least).Yields (.ids idsLeast) ∧
      (Service.small.compile none most).Yields (.ids idsMost) ∧ (1 ∈ idsLeast ↔ 1 ∉ idsMost) := by
  obtain ⟨r, least, most, day, parsed, parsedLeast, parsedMost, addsLeast, addsMost, noColumns, resolved, row, succeeds,
      succeedsLeast, succeedsMost⟩ : ∃ r least most day, Payload.readRequest (.ofRareEditors []) = .ok r ∧
        Payload.readRequest (.ofRareEditors [("totalEditsAtLeast", .ofWeekBefore 4)]) = .ok least ∧
        Payload.readRequest (.ofRareEditors [("totalEditsAtMost", .ofWeekBefore 3)]) = .ok most ∧
        r.Adds (.threshold (.ofTotal .edits .atLeast 4 (some (.offset (-7))))) least ∧
        r.Adds (.threshold (.ofTotal .edits .atMost 3 (some (.offset (-7))))) most ∧ r.columns = [] ∧
        r.window.resolve (some (.offset (-7))) = .ok (some day) ∧ Store.small.HasRowBy 1 day ∧
        (((Service.small.compile none r).run []).result.toOption.any fun a => a.actorIds == [1]) = true ∧
        (((Service.small.compile none least).run []).result.toOption.any fun a => a.actorIds == []) = true ∧
        (((Service.small.compile none most).run []).result.toOption.any fun a => a.actorIds == [1]) = true :=
    ⟨_, _, _, ⟨738878, by decide, by decide⟩, rfl, rfl, rfl, ⟨_, List.Perm.refl _, rfl⟩, ⟨_, List.Perm.refl _, rfl⟩, rfl,
      by decide +kernel, ⟨.uniform (some 1) Date.mayFifth 2 0, List.mem_cons_self, rfl, rfl, by decide +kernel⟩,
      by decide +kernel, by decide +kernel, by decide +kernel⟩
  have compiled := eq_ids_of_any rfl noColumns succeeds
  obtain ⟨_, compiledLeast, -⟩ := exists_of_any succeedsLeast
  obtain ⟨_, compiledMost, -⟩ := exists_of_any succeedsMost
  obtain ⟨idsLeast, idsMost, yieldsLeast, yieldsMost, apart, -⟩ := complementary_of_compile rfl Store.wellKeyed_small
    (by decide) parsed noColumns resolved addsLeast addsMost (takes_of_compile compiledLeast)
    (takes_of_compile compiledMost) compiled
  exact ⟨r, least, most, day, idsLeast, idsMost, parsed, parsedLeast, parsedMost, resolved, row, compiled, yieldsLeast,
    yieldsMost, apart 1 (List.mem_singleton_self 1) row⟩

/-- The newcomer, who has no row, is listed without a bound, but neither with one edit at least nor with none at most.
-/
theorem neither_of_newcomer :
    ∃ r least most, Payload.readRequest (.ofRegistered [] "2023-12-31") = .ok r ∧
      Payload.readRequest (.ofRegistered [("totalEditsAtLeast", .int 1)] "2023-12-31") = .ok least ∧
      Payload.readRequest (.ofRegistered [("totalEditsAtMost", .int 0)] "2023-12-31") = .ok most ∧
      r.columns = [] ∧ r.window.resolve none = .ok (some r.window.finish) ∧
      r.Adds (.threshold (.ofTotal .edits .atLeast 1 none)) least ∧
      r.Adds (.threshold (.ofTotal .edits .atMost 0 none)) most ∧
      ((ofNewcomer.compile none r).run []).result = .ok (.ids [1]) ∧
      ((ofNewcomer.compile none least).run []).result = .ok (.ids []) ∧
      ((ofNewcomer.compile none most).run []).result = .ok (.ids []) := by
  obtain ⟨r, least, most, parsed, parsedLeast, parsedMost, noColumns, addsLeast, addsMost, succeeds, succeedsLeast,
      succeedsMost⟩ : ∃ r least most, Payload.readRequest (.ofRegistered [] "2023-12-31") = .ok r ∧
        Payload.readRequest (.ofRegistered [("totalEditsAtLeast", .int 1)] "2023-12-31") = .ok least ∧
        Payload.readRequest (.ofRegistered [("totalEditsAtMost", .int 0)] "2023-12-31") = .ok most ∧ r.columns = [] ∧
        r.Adds (.threshold (.ofTotal .edits .atLeast 1 none)) least ∧
        r.Adds (.threshold (.ofTotal .edits .atMost 0 none)) most ∧
        (((ofNewcomer.compile none r).run []).result.toOption.any fun a => a.actorIds == [1]) = true ∧
        (((ofNewcomer.compile none least).run []).result.toOption.any fun a => a.actorIds == []) = true ∧
        (((ofNewcomer.compile none most).run []).result.toOption.any fun a => a.actorIds == []) = true :=
    ⟨_, _, _, rfl, rfl, rfl, rfl, ⟨_, List.Perm.swap _ _ _, rfl⟩, ⟨_, List.Perm.swap _ _ _, rfl⟩, by decide +kernel,
      by decide +kernel, by decide +kernel⟩
  exact ⟨r, least, most, parsed, parsedLeast, parsedMost, noColumns, rfl, addsLeast, addsMost,
    eq_ids_of_any rfl noColumns succeeds, eq_ids_of_any rfl (addsLeast.columns.trans noColumns) succeedsLeast,
    eq_ids_of_any rfl (addsMost.columns.trans noColumns) succeedsMost⟩

end Service

end ActivityReport
