import ActivityReport.Proofs.Payload.Column
import ActivityReport.Proofs.Query.OwnShares
import ActivityReport.Proofs.Report.Shares

/-!
# Shares of one's own edits

What columns of percentages of an actor's own edits show. In a store whose counts of edits agree (`Store.EditsAgree`) a
share is at most the number of times a namespace of the column is listed, and so at most 1 where none is listed twice
(`Service.ownShares_of_compile`). The namespaces of a column are added up as they are listed, and the database goes on
with doubles beyond a word; with either an actor may be shown with more than all of its edits
(`Service.ownShare_exceeds_edits`).
-/

namespace ActivityReport

variable {c : Column} {counter : Counter} {span : Span} {form : ScopeForm}

/-- On offer are the percentages of edits and of reverted edits, for the whole activity and for namespaces. -/
lemma ColumnType.of_ownTotalEdits (onOffer : .count counter span .ownTotalEdits form ∈ ColumnType.all) :
    (counter = .edits ∨ counter = .revertedEdits) ∧ (form = .whole ∨ form = .namespaces) := by
  have offered : ∀ t ∈ ColumnType.all, t.ratio = .ownTotalEdits →
      t ∈ counts .whole .revertedEdits [.ownTotalEdits] ++ counts .namespaces .edits [.ownTotalEdits] ++
        counts .namespaces .revertedEdits [.ownTotalEdits] := by decide
  have listed := offered _ onOffer rfl
  simp only [counts, List.mem_append, List.mem_flatMap, List.mem_map, List.mem_singleton] at listed
  obtain ((⟨span, -, ratio, rfl, same⟩ | ⟨span, -, ratio, rfl, same⟩) | ⟨span, -, ratio, rfl, same⟩) := listed
  · cases same
    exact ⟨Or.inr rfl, Or.inl rfl⟩
  · cases same
    exact ⟨Or.inl rfl, Or.inr rfl⟩
  · cases same
    exact ⟨Or.inr rfl, Or.inr rfl⟩

/-- The measures of a share of one's own edits are what it is a share of and the edits. -/
lemma Column.measures_of_ownTotalEdits (type : c.type = .count counter span .ownTotalEdits form) :
    c.measures = [⟨.actor, counter, span, c.scopes⟩, ⟨.actor, .edits, span, [.whole]⟩] := by
  unfold measures
  rw [type]

/-- In a report from a store without double keys, in which the total of every row is right and the counts of edits
agree, a column of percentages of an actor's own edits shows the quotient of what the actor has, over any span and in
any namespaces, by all of its edits over that span. As an exact quotient this is between 0 and the largest number of
times that a namespace is listed, where there is any. It does so for every actor whose edits up to the last day fit a
word and, where a namespace is listed more than once, what it has in the listed namespaces together as well. -/
theorem Service.ownShares_of_compile {x : Service} {s : Store} (stored : x.database.store = some s)
    (keyed : s.WellKeyed) (consistent : s.Consistent) (agree : s.EditsAgree) {json : Json} {r : Request}
    (parsed : Payload.readRequest json = .ok r) {i : Nat} (asked : r.columns[i]? = some c)
    (type : c.type = .count counter span .ownTotalEdits form) {times : ℕ}
    (repeats : ∀ scope ∈ c.scopes, c.scopes.count scope ≤ times) {bots : Option (List String)} {clock : List Float}
    {answer : Answer} (h : ((x.compile bots r).run clock).result = .ok answer) :
    ∃ rows, answer = .rows rows ∧ ∀ row ∈ rows, ∃ a ∈ s.actors, row.id = .int a.id ∧
      (s.OwnFits r.window a.id times ⟨.actor, counter, span, c.scopes⟩ →
        row.values[i]? = some (.quotient (s.tally r.window a.id ⟨.actor, counter, span, c.scopes⟩)
          (s.tally r.window a.id ⟨.actor, .edits, span, [.whole]⟩)) ∧
        ∀ share, exactQuotient? (s.tally r.window a.id ⟨.actor, counter, span, c.scopes⟩)
          (s.tally r.window a.id ⟨.actor, .edits, span, [.whole]⟩) = some share → 0 ≤ share ∧ share ≤ times) := by
  have columns : r.columns ≠ [] := List.ne_nil_of_mem (List.mem_of_getElem? asked)
  have onOffer := Payload.type_mem_all_of_readRequest parsed c (List.mem_of_getElem? asked)
  rw [type] at onOffer
  obtain ⟨counts, offered⟩ := ColumnType.of_ownTotalEdits onOffer
  have unfiltered := Column.areUnfiltered_scopes type offered
  obtain ⟨rows, rfl, shown⟩ := read_of_compile stored keyed consistent columns h
  refine ⟨rows, rfl, fun row listed => ?_⟩
  obtain ⟨a, known, isActor, values⟩ := shown row listed
  refine ⟨a, known, isActor, fun fits => ⟨?_, fun share own => ?_⟩⟩
  · have measures := Column.measures_of_ownTotalEdits type
    have shows := values i c asked (by rw [measures]; exact List.cons_ne_nil _ _) fun m own => by
      rw [measures, List.mem_pair] at own
      rcases own with rfl | rfl
      · exact fits.tallyFits agree counts unfiltered repeats r.ordered _
      · exact fits.tallyFits_edits agree r.ordered _
    have whole : Store.AreUnfiltered [.whole] := Or.inl rfl
    rw [shows, Column.counted?, measures]
    simp only [unfiltered.readTally_eq_tally r.ordered, whole.readTally_eq_tally r.ordered]
  · exact exactQuotient?_le_times (Store.tally_nonneg (agree.nonNegative counts) .actor a.id)
      (Store.tally_nonneg agree.edits .actor a.id)
      (Store.tally_le_times agree counts unfiltered repeats r.window span a.id) own

/-! ### Edits in two namespaces -/

/-- A row of an actor that tells of edits and how many of them were reverted, with totals of edits before its day. -/
def CounterRow.ofReverts (scope : Scope) (date : Date) (edits reverted : Int) (before : Int) : CounterRow :=
  ⟨some 1, scope, date,
    fun c => match c with
      | .edits => edits
      | .revertedEdits => reverted
      | _ => 0,
    fun c => if c = .edits then before else 0⟩

/-- A store of one actor who made four edits on one day, three of them in one namespace and one in another. -/
def Store.ofNamespaces : Store where
  actors := [⟨1, "A", true, none⟩]
  counters :=
    [.ofReverts .whole Date.mayFifth 4 2 0, .ofReverts (.inNamespace 0) Date.mayFifth 3 1 0,
     .ofReverts (.inNamespace 4) Date.mayFifth 1 1 0]
  groups := []
  templates := []

/-- The service of that store. -/
def Service.ofNamespaces : Service := { small with database := ⟨"w", some Store.ofNamespaces⟩ }

/-- A percentage of own edits in some namespaces up to the end of a year. -/
def Json.ofOwnShare (type : String) (namespaces : List Int) : Json :=
  .object [("wikiId", .text "w"), ("columns", .list [.object [("type", .text type),
      ("namespace", .list (namespaces.map .int))]]), ("endDate", .text "2023-12-31")]

/-- Of four edits two were reverted, one in either namespace. -/
theorem Service.ownShares_of_two_namespaces :
    ∃ r c rows, Payload.readRequest
        (.ofOwnShare "revertedEditsInNamespaceSinceRegistrationPercentageToOwnTotalEdits" [0, 4]) = .ok r ∧
      Store.ofNamespaces.WellKeyed ∧ Store.ofNamespaces.Consistent ∧ Store.ofNamespaces.EditsAgree ∧
      r.columns[0]? = some c ∧ c.type = .count .revertedEdits .sinceRegistration .ownTotalEdits .namespaces ∧
      (∀ scope ∈ c.scopes, c.scopes.count scope ≤ 1) ∧
      ((ofNamespaces.compile none r).run []).result = .ok (.rows rows) ∧ rows.length = 1 ∧
      ∀ row ∈ rows, row.values[0]? = some (.quotient 2 4) ∧
        ∀ share, exactQuotient? 2 4 = some share → 0 ≤ share ∧ share ≤ 1 := by
  obtain ⟨r, c, parsed, succeeds, asked, type, once, checked⟩ : ∃ r c, Payload.readRequest
        (.ofOwnShare "revertedEditsInNamespaceSinceRegistrationPercentageToOwnTotalEdits" [0, 4]) = .ok r ∧
      (((ofNamespaces.compile none r).run []).result.toOption.any fun a => a.size == 1) = true ∧
      r.columns[0]? = some c ∧ c.type = .count .revertedEdits .sinceRegistration .ownTotalEdits .namespaces ∧
      (∀ scope ∈ c.scopes, c.scopes.count scope ≤ 1) ∧
      ∀ a ∈ Store.ofNamespaces.actors,
        Store.ofNamespaces.OwnFits r.window a.id 1 ⟨.actor, .revertedEdits, .sinceRegistration, c.scopes⟩ ∧
        Store.ofNamespaces.tally r.window a.id ⟨.actor, .revertedEdits, .sinceRegistration, c.scopes⟩ = 2 ∧
        Store.ofNamespaces.tally r.window a.id ⟨.actor, .edits, .sinceRegistration, [.whole]⟩ = 4 :=
    ⟨_, _, rfl, by decide +kernel, rfl, rfl, by decide +kernel, by decide +kernel⟩
  have keyed : Store.ofNamespaces.WellKeyed := ⟨by decide, by decide, by decide, by decide⟩
  have consistent : Store.ofNamespaces.Consistent := by decide
  have agree : Store.ofNamespaces.EditsAgree := ⟨by decide, by decide, by decide, by decide⟩
  obtain ⟨answer, compiled, one⟩ := exists_of_any succeeds
  obtain ⟨rows, rfl, shown⟩ := ownShares_of_compile rfl keyed consistent agree parsed asked type once compiled
  refine ⟨r, c, rows, parsed, keyed, consistent, agree, asked, type, once, compiled, eq_of_beq one, ?_⟩
  intro row listed
  obtain ⟨a, known, -, values⟩ := shown row listed
  obtain ⟨fits, two, four⟩ := checked a known
  obtain ⟨value, bounds⟩ := values fits
  rw [two, four] at value bounds
  rw [Nat.cast_one] at bounds
  exact ⟨value, bounds⟩

/-! ### More than all edits -/

/-- A store of one actor who has more edits than a word holds, most of them in one namespace on the first of two
days. -/
def Store.ofManyEdits : Store where
  actors := [⟨1, "A", true, none⟩]
  counters :=
    [.ofReverts .whole Date.mayFifth 9223372036854775208 0 0,
     .ofReverts .whole Date.juneFifth 1600 0 9223372036854775208,
     .ofReverts (.inNamespace 0) Date.mayFifth 9223372036854775208 0 0,
     .ofReverts (.inNamespace 1) Date.juneFifth 1600 0 0]
  groups := []
  templates := []

/-- The service of that store. -/
def Service.ofManyEdits : Service := { small with database := ⟨"w", some Store.ofManyEdits⟩ }

/-- The percentage of own edits in two namespaces on the second day. -/
def Json.ofManyEdits : Json :=
  .object [("wikiId", .text "w"), ("columns", .list [.object [
      ("type", .text "editsInNamespaceInPeriodPercentageToOwnTotalEdits"),
      ("namespace", .list [.int 0, .int 1])]]),
    ("startDate", .text "2023-06-05"), ("endDate", .text "2023-06-05")]

/-- An actor is shown with more than all of its edits, in stores in which all is right: with half as many again where
the namespace of most of its edits is listed twice, and with other namespaces where its edits do not fit a word. -/
theorem Service.ownShare_exceeds_edits :
    (Store.ofNamespaces.WellKeyed ∧ Store.ofNamespaces.Consistent ∧ Store.ofNamespaces.EditsAgree ∧
      ∃ r rows, Payload.readRequest
          (.ofOwnShare "editsInNamespaceSinceRegistrationPercentageToOwnTotalEdits" [0, 0]) = .ok r ∧
        ((ofNamespaces.compile none r).run []).result = .ok (.rows rows) ∧
        (Answer.rows rows).fractions = [(some 1, [some (3 / 2)])]) ∧
    (Store.ofManyEdits.WellKeyed ∧ Store.ofManyEdits.Consistent ∧ Store.ofManyEdits.EditsAgree ∧
      (∀ n ∈ Store.ofManyEdits.integers, Number.fitsWord n = true) ∧
      ∃ r rows, Payload.readRequest Json.ofManyEdits = .ok r ∧
        ((ofManyEdits.compile none r).run []).result = .ok (.rows rows) ∧
        (Answer.rows rows).fractions = [(some 1, [some (25 / 16)])]) := by
  have ofNamespaces : ∃ r, Payload.readRequest
        (.ofOwnShare "editsInNamespaceSinceRegistrationPercentageToOwnTotalEdits" [0, 0]) = .ok r ∧
      (((ofNamespaces.compile none r).run []).result.toOption.any fun a =>
        a.fractions == [(some 1, [some (3 / 2)])]) = true :=
    ⟨_, rfl, by decide +kernel⟩
  have ofManyEdits : ∃ r, Payload.readRequest Json.ofManyEdits = .ok r ∧
      (((ofManyEdits.compile none r).run []).result.toOption.any fun a =>
        a.fractions == [(some 1, [some (25 / 16)])]) = true :=
    ⟨_, rfl, by decide +kernel⟩
  constructor
  · obtain ⟨r, parsed, succeeds⟩ := ofNamespaces
    obtain ⟨rows, compiled, shown⟩ := Answer.exists_rows_of_any Answer.fractions (fun _ => rfl) succeeds
    exact ⟨⟨by decide, by decide, by decide, by decide⟩, by decide, ⟨by decide, by decide, by decide, by decide⟩,
      r, rows, parsed, compiled, shown⟩
  · obtain ⟨r, parsed, succeeds⟩ := ofManyEdits
    obtain ⟨rows, compiled, shown⟩ := Answer.exists_rows_of_any Answer.fractions (fun _ => rfl) succeeds
    exact ⟨⟨by decide, by decide, by decide, by decide⟩, by decide +kernel,
      ⟨by decide, by decide, by decide +kernel, by decide⟩, by decide +kernel, r, rows, parsed, compiled, shown⟩

end ActivityReport
