import ActivityReport.Proofs.Query.Shares
import ActivityReport.Proofs.Report.Counters
import ActivityReport.Proofs.Report.Modes

/-!
# Shares of the wiki total

What columns of percentages of the wiki's total show. In a store whose wiki rows sum the actors' rows up, and in which
no daily value is negative, each of them shows a share between 0 and 1, and those of all rows come to no more than 1
(`Service.shares_of_compile`), as long as the numbers of the wiki fit a word. Beyond a word the database goes on with
doubles, and a share may exceed the whole (`Service.share_exceeds_whole`).
-/

namespace ActivityReport

variable {c : Column} {counter : Counter} {span : Span} {form : ScopeForm}

namespace Column

/-- The measures of a share of the wiki are those of the actor and of the wiki. -/
lemma measures_of_wikiTotal (type : c.type = .count counter span .wikiTotal form) :
    c.measures = [⟨.actor, counter, span, c.scopes⟩, ⟨.wiki, counter, span, c.scopes⟩] := by
  unfold measures
  rw [type]

/-- The scopes of a column that is offered for the whole activity or for namespaces are just that. -/
lemma areUnfiltered_scopes {ratio : Ratio} (type : c.type = .count counter span ratio form)
    (offered : form = .whole ∨ form = .namespaces) : Store.AreUnfiltered c.scopes := by
  obtain ⟨t, id, parameter, more, fits⟩ := c
  obtain rfl : t = .count counter span ratio form := type
  -- the parameter of the column is of its form
  rcases offered with rfl | rfl
  · match parameter, fits with
    | .scopes .whole, _ => exact Or.inl rfl
  · match parameter, fits with
    | .scopes (.namespaces (first :: rest)), _ =>
      refine Or.inr fun scope listed => ?_
      obtain ⟨id, -, rfl⟩ := List.mem_map.1 listed
      rfl

/-- The wiki has a table for the scopes of a column without log filters and change tags. -/
lemma isSnapshot_wiki_of_mem_scopes (type : c.type = .count counter span .wikiTotal form)
    (offered : form = .whole ∨ form = .namespaces) {scope : Scope} (listed : scope ∈ c.scopes) :
    scope.tableKind.isSnapshot .wiki = true := by
  rcases (areUnfiltered_scopes type offered).table_of_mem listed with rfl | table
  · rfl
  · rw [table]
    rfl

end Column

namespace Service

/-- Different rows of an answer are of different actors. -/
lemma nodup_actorIds {x : Service} {s : Store} (stored : x.database.store = some s) (keyed : s.WellKeyed) {r : Request}
    {bots : Option (List String)} {clock : List Float} {answer : Answer}
    (h : ((x.compile bots r).run clock).result = .ok answer) : answer.actorIds.Nodup := by
  obtain ⟨ladder, flagless, q, -, -, built, answered⟩ := parts_of_compile h
  exact (actorIds_of_answer stored (Query.ofRequest_plan built) answered).1.nodup (Query.nodup_keptIds keyed)

/-- The rows of a report are those of its actors, one by one. -/
lemma forall₂_actorIds {rows : List ActorRow} {P : Int → ActorRow → Prop}
    (each : ∀ row ∈ rows, ∃ id, row.id = .int id ∧ P id row) :
    List.Forall₂ (fun id row => row.id = .int id ∧ P id row) (Answer.rows rows).actorIds rows := by
  show List.Forall₂ _ (rows.filterMap fun row => row.id.int?) rows
  induction rows with
  | nil => exact .nil
  | cons row rest ih =>
    obtain ⟨id, isActor, own⟩ := each row List.mem_cons_self
    rw [List.filterMap_cons_some (b := id) (by rw [isActor]; rfl)]
    exact .cons ⟨isActor, own⟩ (ih fun row listed => each row (List.mem_cons_of_mem _ listed))

/-- In a report from a store without double keys, in which the total of every row is right, no daily value of a counter
is negative and the wiki's rows sum the actors' rows up, a column of percentages of the wiki's total, over any span and
for the whole activity or any namespaces, shows the quotient of what an actor has by what the wiki has. As exact
quotients these are between 0 and 1 where there are any, and those of all rows come to no more than 1. It does so as
long as the wiki's totals fit a word. -/
theorem shares_of_compile {x : Service} {s : Store} (stored : x.database.store = some s) (keyed : s.WellKeyed)
    (consistent : s.Consistent) {r : Request} {i : Nat} (asked : r.columns[i]? = some c)
    (type : c.type = .count counter span .wikiTotal form) (offered : form = .whole ∨ form = .namespaces)
    (nonNegative : s.IsNonNegative counter) (sumsUp : s.SumsUp counter)
    (fits : s.WikiFits r.window counter span c.scopes) {bots : Option (List String)} {clock : List Float}
    {answer : Answer} (h : ((x.compile bots r).run clock).result = .ok answer) :
    ∃ rows ids, answer = .rows rows ∧ ids.Nodup ∧
      List.Forall₂ (fun id row => row.id = .int id ∧ row.values[i]? = some (.quotient
        (s.tally r.window id ⟨.actor, counter, span, c.scopes⟩) (s.wikiTally r.window counter span c.scopes))) ids rows ∧
      (∀ id ∈ ids, ∀ share, exactQuotient? (s.tally r.window id ⟨.actor, counter, span, c.scopes⟩)
        (s.wikiTally r.window counter span c.scopes) = some share → 0 ≤ share ∧ share ≤ 1) ∧
      (ids.filterMap fun id => exactQuotient? (s.tally r.window id ⟨.actor, counter, span, c.scopes⟩)
        (s.wikiTally r.window counter span c.scopes)).sum ≤ 1 := by
  have columns : r.columns ≠ [] := by
    intro none
    rw [none] at asked
    cases asked
  obtain ⟨rows, rfl, shown⟩ := read_of_compile stored keyed consistent columns h
  have distinct := nodup_actorIds stored keyed h
  have wiki : ∀ scope ∈ c.scopes, scope.tableKind.isSnapshot .wiki = true :=
    fun scope listed => Column.isSnapshot_wiki_of_mem_scopes type offered listed
  have whole : (0 : Int) ≤ s.wikiTally r.window counter span c.scopes := Store.tally_nonneg nonNegative .wiki 0
  have le := Store.sum_tally_le nonNegative sumsUp r.window span wiki distinct
  refine ⟨rows, (Answer.rows rows).actorIds, rfl, distinct, forall₂_actorIds fun row listed => ?_,
    fun id listed share own => ?_, sum_exactQuotient?_le_one _ le whole⟩
  · obtain ⟨a, -, isActor, values⟩ := shown row listed
    refine ⟨a.id, isActor, ?_⟩
    have kept : ∀ d, ∀ k ∈ (⟨d, counter, span, c.scopes⟩ : Measure).keys r.window,
        s.loses (x.settings.naming r.wikiId).actorTable k a.id = false :=
      fun d k key => (Column.areUnfiltered_scopes type offered).loses_eq_false key _ a.id
    have actorFits := fits.tallyFits nonNegative r.ordered (kept .actor) fun scope mine days =>
      Store.sumOn_le_wiki nonNegative sumsUp (wiki scope mine) a.id
    have wikiFits := fits.tallyFits nonNegative r.ordered (kept .wiki) fun scope mine days => le_refl _
    have shows := values i c asked (by rw [Column.measures_of_wikiTotal type]; exact List.cons_ne_nil _ _) fun m own => by
      rw [Column.measures_of_wikiTotal type, List.mem_pair] at own
      rcases own with rfl | rfl
      · exact actorFits
      · exact wikiFits
    rw [shows, Column.counted?, Column.measures_of_wikiTotal type]
    simp only [Store.readTally_eq_tally r.ordered (kept _)]
    rfl
  · exact exactQuotient?_mem_unit (Store.tally_nonneg nonNegative .actor id)
      (Store.tally_le_wikiTally nonNegative sumsUp r.window span wiki id) own

end Service

/-- The share of all edits up to the end of a year, asked for of actors with four edits at most. -/
def Json.ofShares : Json :=
  .object [("wikiId", .text "w"), ("columns", .list [.object [
      ("type", .text "editsSinceRegistrationPercentageToWikiTotal")]]),
    ("requirements", .object [("totalEditsAtMost", .int 4)]), ("endDate", .text "2023-12-31")]

/-- One actor of the small store has four edits at most, and a share of the eight edits of the wiki. -/
theorem Service.shares_of_small :
    ∃ r c rows ids, Payload.readRequest Json.ofShares = .ok r ∧ Store.small.WellKeyed ∧ Store.small.Consistent ∧
      r.columns[0]? = some c ∧ c.type = .count .edits .sinceRegistration .wikiTotal .whole ∧
      Store.small.IsNonNegative .edits ∧ Store.small.SumsUp .edits ∧
      Store.small.WikiFits r.window .edits .sinceRegistration c.scopes ∧
      ((small.compile none r).run []).result = .ok (.rows rows) ∧ rows.length = 1 ∧ ids.Nodup ∧
      List.Forall₂ (fun id row => row.id = .int id ∧ row.values[0]? = some (.quotient
        (Store.small.tally r.window id ⟨.actor, .edits, .sinceRegistration, c.scopes⟩) 8)) ids rows ∧
      (ids.filterMap fun id => exactQuotient?
        (Store.small.tally r.window id ⟨.actor, .edits, .sinceRegistration, c.scopes⟩) 8).sum ≤ 1 := by
  obtain ⟨r, c, parsed, succeeds, asked, type, fits, eight⟩ : ∃ r c, Payload.readRequest Json.ofShares = .ok r ∧
      (((small.compile none r).run []).result.toOption.any fun a => a.size == 1) = true ∧
      r.columns[0]? = some c ∧ c.type = .count .edits .sinceRegistration .wikiTotal .whole ∧
      Store.small.WikiFits r.window .edits .sinceRegistration c.scopes ∧
      Store.small.wikiTally r.window .edits .sinceRegistration c.scopes = 8 :=
    ⟨_, _, rfl, by decide +kernel, rfl, rfl, by decide +kernel, by decide +kernel⟩
  have consistent : Store.small.Consistent := by decide
  have nonNegative : Store.small.IsNonNegative .edits := by decide
  have sumsUp : Store.small.SumsUp .edits := by decide
  obtain ⟨answer, compiled, one⟩ := exists_of_any succeeds
  obtain ⟨rows, ids, rfl, distinct, values, -, sum⟩ := shares_of_compile rfl Store.wellKeyed_small consistent asked type
    (Or.inl rfl) nonNegative sumsUp fits compiled
  rw [eight] at values sum
  exact ⟨r, c, rows, ids, parsed, Store.wellKeyed_small, consistent, asked, type, nonNegative, sumsUp, fits, compiled,
    eq_of_beq one, distinct, values, sum⟩

/-! ### A whole beyond a word -/

/-- A row of the whole activity of a subject that tells of edits only. -/
def CounterRow.ofEdits (subject : Option Int) (date : Date) (daily toDate : Int) : CounterRow :=
  ⟨subject, .whole, date, fun c => if c = .edits then daily else 0, fun c => if c = .edits then toDate else 0⟩

/-- A store of two actors who have more edits together than a word holds, most of them on the first of two days. -/
def Store.ofOverflow : Store where
  actors := [⟨1, "A", true, none⟩, ⟨2, "B", true, none⟩]
  counters :=
    [.ofEdits (some 2) Date.mayFifth 9223372036854775208 0, .ofEdits (some 1) Date.juneFifth 1600 0,
     .ofEdits none Date.mayFifth 9223372036854775208 0, .ofEdits none Date.juneFifth 1600 9223372036854775208]
  groups := [(1, "g")]
  templates := []

/-- The service of that store. -/
def Service.ofOverflow : Service := { small with database := ⟨"w", some Store.ofOverflow⟩ }

/-- The share of the edits of the second day, asked for of the actors in a group. -/
def Json.ofOverflow : Json :=
  .object [("wikiId", .text "w"), ("columns", .list [.object [("type", .text "editsInPeriodPercentageToWikiTotal")]]),
    ("requirements", .object [("userGroups", .list [.text "g"])]), ("startDate", .text "2023-06-05"),
    ("endDate", .text "2023-06-05")]

/-- The actors and the values of the rows of an answer, as far as they are fractions. -/
def Answer.fractions : Answer → List (Option Int × List (Option ℚ))
  | rows list => list.map fun row => (row.id.int?, row.values.map fun
    | .float x => (Number.parts? x).map Number.Parts.toRat
    | _ => none)
  | ids _ => []

/-- An actor with all edits of a day is shown with more than all of them, in a store in which all is right. -/
theorem Service.share_exceeds_whole :
    Store.ofOverflow.WellKeyed ∧ Store.ofOverflow.Consistent ∧ Store.ofOverflow.IsNonNegative .edits ∧
      Store.ofOverflow.SumsUp .edits ∧ (∀ n ∈ Store.ofOverflow.integers, Number.fitsWord n = true) ∧
      ∃ r rows, Payload.readRequest Json.ofOverflow = .ok r ∧
        ((ofOverflow.compile none r).run []).result = .ok (.rows rows) ∧
        (Answer.rows rows).fractions = [(some 1, [some (25 / 16)])] := by
  refine ⟨⟨by decide, by decide, by decide, by decide⟩, by decide +kernel, by decide, by decide +kernel,
    by decide +kernel, ?_⟩
  obtain ⟨r, parsed, succeeds⟩ : ∃ r, Payload.readRequest Json.ofOverflow = .ok r ∧
      (((ofOverflow.compile none r).run []).result.toOption.any fun a =>
        a.fractions == [(some 1, [some (25 / 16)])]) = true :=
    ⟨_, rfl, by decide +kernel⟩
  obtain ⟨rows, compiled, shown⟩ := Answer.exists_rows_of_any Answer.fractions (fun _ => rfl) succeeds
  exact ⟨r, rows, parsed, compiled, shown⟩

end ActivityReport
