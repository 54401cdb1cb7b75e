import ActivityReport.Proofs.Report.Columns

/-!
# Adjacent windows

What a counter column shows over a window is what it shows over the days up to a cut and what it shows over the
days after it (`Service.added_of_compile`), whatever totals the store has. A column shows a difference of two
totals in each scope; the latest row up to the cut is the latest row before the next day, so the total that the
first difference ends with is the one that the second difference starts from. This breaks where one of these two
keys loses the row and the other does not.
-/

namespace ActivityReport

open Number (fitsWord)

/-! ## Sums that come to whole numbers -/

/-- An operation that comes to a whole number was exact, on whole numbers. -/
lemma Amount.combine_eq_whole {exact : Int → Int → Int} {rounded : Float → Float → Float} {a b : Amount} {n : Int}
    (h : combine exact rounded a b = .whole n) : ∃ k m, a = .whole k ∧ b = .whole m ∧ exact k m = n := by
  unfold combine at h
  split at h
  · split at h <;> cases h
    exact ⟨_, _, rfl, rfl, rfl⟩
  · cases h

/-- A sum that comes to a whole number comes to its exact value. -/
lemma Sum.exact_of_eval_eq_whole {j : JoinedRow} {a : Sum} {n : Int} (h : a.eval j = .whole n) : a.exact j = n := by
  induction a generalizing n with
  | none => exact Number.Numeral.whole.inj h
  | total k counter =>
    rw [exact]
    rw [eval] at h
    split at h
    · obtain ⟨_, _, same, same', sum⟩ := Amount.combine_eq_whole h
      cases same
      cases same'
      exact sum
    · exact Number.Numeral.whole.inj h
  | plus a b iha ihb | minus a b iha ihb =>
    obtain ⟨k, m, first, second, rfl⟩ := Amount.combine_eq_whole h
    rw [exact, iha first, ihb second]

/-! ## Totals that are found -/

namespace Store

/-- The total of a counter in the row that is found under a key; without a row it is 0. -/
def foundTotal (s : Store) (actorTable : String) (actorId : Int) (counter : Counter) (k : SnapshotKey) : Int :=
  (s.snapshotRow? actorTable k actorId).elim 0 fun row => row.toDate counter + row.daily counter

/-- What is found for an actor over a window in one scope: the total at the last day, less the one before the
first day. -/
def foundIn (s : Store) (actorTable : String) (w : Window) (actorId : Int) (counter : Counter) (scope : Scope) : Int :=
  s.foundTotal actorTable actorId counter ⟨.actor, .finish, w.finish, scope⟩ -
    w.start.elim 0 fun first => s.foundTotal actorTable actorId counter ⟨.actor, .before, first, scope⟩

/-- What is found for an actor over a window in some scopes together. -/
def found (s : Store) (actorTable : String) (w : Window) (actorId : Int) (counter : Counter) (scopes : List Scope) :
    Int :=
  (scopes.map (s.foundIn actorTable w actorId counter)).sum

/-- Whether all numbers that are met on the way fit a word: the totals, what is found in one scope and the sums
over the first scopes. -/
structure FoundFits (s : Store) (actorTable : String) (w : Window) (actorId : Int) (counter : Counter)
    (scopes : List Scope) : Prop where
  last : ∀ scope ∈ scopes, fitsWord (s.foundTotal actorTable actorId counter ⟨.actor, .finish, w.finish, scope⟩) = true
  first : ∀ scope ∈ scopes, ∀ first ∈ w.start,
    fitsWord (s.foundTotal actorTable actorId counter ⟨.actor, .before, first, scope⟩) = true
  each : ∀ scope ∈ scopes, fitsWord (s.foundIn actorTable w actorId counter scope) = true
  sums : ∀ some ∈ scopes.inits, fitsWord (s.found actorTable w actorId counter some) = true

variable {s : Store} {actorTable : String} {actorId : Int} {counter : Counter} {cut next : Date}

/-- Where both keys at a cut have their row, or neither has, what is found over a window is what is found over its
two parts. -/
lemma foundIn_eq_add (follows : cut.addDays? 1 = some next) (first : Option Date) (last : Date) {scope : Scope}
    (alike : s.loses actorTable ⟨.actor, .finish, cut, scope⟩ actorId =
      s.loses actorTable ⟨.actor, .before, next, scope⟩ actorId) :
    s.foundIn actorTable ⟨first, last⟩ actorId counter scope =
      s.foundIn actorTable ⟨first, cut⟩ actorId counter scope +
        s.foundIn actorTable ⟨some next, last⟩ actorId counter scope := by
  have meet : s.foundTotal actorTable actorId counter ⟨.actor, .before, next, scope⟩ =
      s.foundTotal actorTable actorId counter ⟨.actor, .finish, cut, scope⟩ := by
    rw [foundTotal, foundTotal, snapshotRow?, snapshotRow?, alike, latestRow?_before_next follows]
  simp only [foundIn, Option.elim_some, meet]
  omega

/-- In some scopes together as well. -/
lemma found_eq_add (follows : cut.addDays? 1 = some next) (first : Option Date) (last : Date) {scopes : List Scope}
    (alike : ∀ scope ∈ scopes, s.loses actorTable ⟨.actor, .finish, cut, scope⟩ actorId =
      s.loses actorTable ⟨.actor, .before, next, scope⟩ actorId) :
    s.found actorTable ⟨first, last⟩ actorId counter scopes =
      s.found actorTable ⟨first, cut⟩ actorId counter scopes +
        s.found actorTable ⟨some next, last⟩ actorId counter scopes := by
  rw [found, found, found, ← List.sum_map_add]
  exact congrArg List.sum (List.map_congr_left fun scope own => foundIn_eq_add follows first last (alike scope own))

/-! ## Sums over a window -/

variable {p : JoinPlan} {w : Window} {a : Actor}

/-- A total in the row of an actor is the one that is found. -/
lemma exact_total_joinedRow {k : SnapshotKey} (planned : k ∈ p.snapshots) :
    (Sum.total k counter).exact (s.joinedRow actorTable p a) = s.foundTotal actorTable a.id counter k := by
  rw [Sum.exact, snapshot?_joinedRow planned, foundTotal]
  cases s.snapshotRow? actorTable k a.id <;> rfl

end Store

/-- A plan reads the totals at both ends of a window in some scopes. -/
structure JoinPlan.ReadsOver (p : JoinPlan) (w : Window) (scopes : List Scope) : Prop where
  last : ∀ scope ∈ scopes, ⟨.actor, .finish, w.finish, scope⟩ ∈ p.snapshots
  first : ∀ scope ∈ scopes, ∀ first ∈ w.start, ⟨.actor, .before, first, scope⟩ ∈ p.snapshots

namespace JoinPlan.ReadsOver

variable {s : Store} {actorTable : String} {counter : Counter} {p : JoinPlan} {w : Window} {a : Actor}
  {scopes : List Scope} {scope : Scope}

/-- What is read in some scopes is read in a part of them. -/
lemma mono (reads : p.ReadsOver w scopes) {part : List Scope} (sub : part ⊆ scopes) : p.ReadsOver w part :=
  ⟨fun scope own => reads.last scope (sub own), fun scope own => reads.first scope (sub own)⟩

/-- In the row of an actor the total before the first day is the one that is found. -/
lemma exact_atStart (reads : p.ReadsOver w scopes) (own : scope ∈ scopes) :
    (w.atStart .actor counter scope).exact (s.joinedRow actorTable p a) =
      w.start.elim 0 fun first => s.foundTotal actorTable a.id counter ⟨.actor, .before, first, scope⟩ := by
  rw [Window.atStart]
  cases start : w.start with
  | none => rfl
  | some first =>
    rw [Option.elim_some]
    exact Store.exact_total_joinedRow (reads.first scope own first start)

/-- In the row of an actor the difference of a scope's totals is what is found in the scope. -/
lemma exact_overSpan (reads : p.ReadsOver w scopes) (own : scope ∈ scopes) :
    (w.overSpan .actor .inPeriod counter scope).exact (s.joinedRow actorTable p a) =
      s.foundIn actorTable w a.id counter scope := by
  rw [Window.overSpan, Sum.exact, reads.exact_atStart own, Window.atFinish,
    Store.exact_total_joinedRow (reads.last scope own), Store.foundIn]

/-- In the row of an actor the sum over some scopes is what is found in them together. -/
lemma exact_overScopes (reads : p.ReadsOver w scopes) :
    (w.overScopes .actor .inPeriod counter scopes).exact (s.joinedRow actorTable p a) =
      s.found actorTable w a.id counter scopes := by
  rw [Window.overScopes, Sum.exact_ofList, List.map_map]
  exact congrArg List.sum (List.map_congr_left fun scope own => reads.exact_overSpan own)

/-- The difference of a scope's totals fits when all numbers that are met fit a word. -/
lemma fits_overSpan (reads : p.ReadsOver w scopes) (fits : s.FoundFits actorTable w a.id counter scopes)
    (own : scope ∈ scopes) :
    (w.overSpan .actor .inPeriod counter scope).fits (s.joinedRow actorTable p a) = true := by
  have start : (w.atStart .actor counter scope).fits (s.joinedRow actorTable p a) = true := by
    rw [Window.atStart]
    cases start : w.start with
    | none => rfl
    | some first =>
      rw [Sum.fits, Store.exact_total_joinedRow (reads.first scope own first start)]
      exact fits.first scope own first start
  have finish : (w.atFinish .actor counter scope).fits (s.joinedRow actorTable p a) = true := by
    rw [Window.atFinish, Sum.fits, Store.exact_total_joinedRow (reads.last scope own)]
    exact fits.last scope own
  have whole : (w.overSpan .actor .inPeriod counter scope).exact (s.joinedRow actorTable p a) =
      s.foundIn actorTable w a.id counter scope := reads.exact_overSpan own
  rw [Window.overSpan] at whole
  rw [Window.overSpan, Sum.fits, finish, start, whole, fits.each scope own]
  rfl

/-- Where all numbers that are met fit a word, the sum over some scopes comes to what is found in them. -/
lemma eval_overScopes (reads : p.ReadsOver w scopes) (fits : s.FoundFits actorTable w a.id counter scopes) :
    (w.overScopes .actor .inPeriod counter scopes).eval (s.joinedRow actorTable p a) =
      .whole (s.found actorTable w a.id counter scopes) := by
  rw [← reads.exact_overScopes]
  refine Sum.eval_eq_exact (Sum.fits_ofList (fun part listed => ?_) fun some start => ?_)
  · obtain ⟨scope, own, rfl⟩ := List.mem_map.1 listed
    exact reads.fits_overSpan fits own
  · obtain ⟨first, start', rfl⟩ := List.prefix_map_iff.1 start
    have whole : (w.overScopes .actor .inPeriod counter first).exact (s.joinedRow actorTable p a) =
        s.found actorTable w a.id counter first := (reads.mono start'.subset).exact_overScopes
    rw [Window.overScopes, Sum.exact_ofList] at whole
    rw [whole]
    exact fits.sums first ((List.mem_inits _ _).2 start')

end JoinPlan.ReadsOver

/-! ## Counter columns over a window -/

section

variable {s : Store} {actorTable : String} {w : Window} {ladder : Option Ladder} {c : Column} {counter : Counter}
  {form : ScopeForm} {a : Actor}

/-- A counter column over a window needs the totals at both ends. -/
lemma Column.readsOver_needs (type : c.type = .count counter .inPeriod .none form) :
    (JoinPlan.ofNeeds (c.needs w)).ReadsOver w c.scopes := by
  have needed : ∀ scope ∈ c.scopes, ∀ k, .snapshot k ∈ w.needSpan .actor .inPeriod scope →
      k ∈ (JoinPlan.ofNeeds (c.needs w)).snapshots := by
    intro scope own k need
    refine JoinPlan.mem_snapshots_ofNeeds.2 (Or.inl ?_)
    rw [Column.needs, type]
    exact List.mem_append_left _ (List.mem_flatMap.2 ⟨scope, own, List.mem_append_left _ need⟩)
  refine ⟨fun scope own => needed scope own _ ?_, fun scope own first start => needed scope own _ ?_⟩
  · exact List.mem_append_right _ (List.mem_singleton_self _)
  · refine List.mem_append_left _ ?_
    rw [Window.needBefore, Option.mem_def.1 start]
    exact List.mem_singleton_self _

/-- A counter column over a window shows the sum over its scopes. -/
lemma Store.shown_count (type : c.type = .count counter .inPeriod .none form) :
    s.shown actorTable w ladder c a = .ofNumber ((w.overScopes .actor .inPeriod counter c.scopes).eval
      (s.joinedRow actorTable (.ofNeeds (c.needs w)) a)) := by
  have expressed : c.expression? w = some (.amount (w.overScopes .actor .inPeriod counter c.scopes)) := by
    rw [Column.expression?, type]
  rw [Store.shown_of_expression expressed, type, Expression.eval]
  cases (w.overScopes .actor .inPeriod counter c.scopes).eval (s.joinedRow actorTable (.ofNeeds (c.needs w)) a) <;> rfl

/-- A whole number that a counter column shows is what is found over the window. -/
lemma Store.eq_found_of_shown (type : c.type = .count counter .inPeriod .none form) {m : Int}
    (shows : s.shown actorTable w ladder c a = .int m) : m = s.found actorTable w a.id counter c.scopes := by
  rw [shown_count type] at shows
  rw [← (Column.readsOver_needs type).exact_overScopes]
  cases value : (w.overScopes .actor .inPeriod counter c.scopes).eval (s.joinedRow actorTable (.ofNeeds (c.needs w)) a) with
  | whole n =>
    rw [value] at shows
    rw [Sum.exact_of_eval_eq_whole value]
    exact (Cell.int.inj shows).symm
  | real x =>
    rw [value] at shows
    cases shows

/-- Where all numbers that are met fit a word, a counter column shows a whole number. -/
lemma Store.shown_eq_found (type : c.type = .count counter .inPeriod .none form)
    (fits : s.FoundFits actorTable w a.id counter c.scopes) :
    s.shown actorTable w ladder c a = .int (s.found actorTable w a.id counter c.scopes) := by
  rw [shown_count type, (Column.readsOver_needs type).eval_overScopes fits]
  rfl

end

/-- Three reports on one wiki, on a window, on its days up to a cut and on those from the next day on, each have a
column of one counter over one list of scopes. For an actor in all three of them the whole number over the window is
the sum of those over its two parts, whatever totals the store has, as long as in each scope both keys at the cut have
their row or neither has. The numbers are whole where all that is met on the way fits a word. Only rows of a log filter
are lost, and with tables of the usual version none at all. -/
theorem Service.added_of_compile {x : Service} {s : Store} (stored : x.database.store = some s) (keyed : s.WellKeyed)
    {r r₁ r₂ : Request} (wiki₁ : r₁.wikiId = r.wikiId) (wiki₂ : r₂.wikiId = r.wikiId) {first : Option Date}
    {cut next last : Date} (follows : cut.addDays? 1 = some next) (window : r.window = ⟨first, last⟩)
    (window₁ : r₁.window = ⟨first, cut⟩) (window₂ : r₂.window = ⟨some next, last⟩)
    {bots bots₁ bots₂ : Option (List String)} {clock clock₁ clock₂ : List Float} {answer answer₁ answer₂ : Answer}
    (h : ((x.compile bots r).run clock).result = .ok answer)
    (h₁ : ((x.compile bots₁ r₁).run clock₁).result = .ok answer₁)
    (h₂ : ((x.compile bots₂ r₂).run clock₂).result = .ok answer₂) {i i₁ i₂ : Nat} {c c₁ c₂ : Column}
    (asked : r.columns[i]? = some c) (asked₁ : r₁.columns[i₁]? = some c₁) (asked₂ : r₂.columns[i₂]? = some c₂)
    {counter : Counter} {form : ScopeForm} (type : c.type = .count counter .inPeriod .none form)
    (type₁ : c₁.type = c.type) (type₂ : c₂.type = c.type) (parameter₁ : c₁.parameter = c.parameter)
    (parameter₂ : c₂.parameter = c.parameter) {n : Naming} (named : x.settings.naming r.wikiId = n) :
    ∃ rows rows₁ rows₂, answer = .rows rows ∧ answer₁ = .rows rows₁ ∧ answer₂ = .rows rows₂ ∧
      (∀ row ∈ rows, ∀ row₁ ∈ rows₁, ∀ row₂ ∈ rows₂, row₁.id = row.id → row₂.id = row.id →
        ∃ a ∈ s.actors, row.id = .int a.id ∧
          ((∀ scope ∈ c.scopes, s.loses n.actorTable ⟨.actor, .finish, cut, scope⟩ a.id =
              s.loses n.actorTable ⟨.actor, .before, next, scope⟩ a.id) →
            ∀ m m₁ m₂, row.values[i]? = some (.int m) → row₁.values[i₁]? = some (.int m₁) →
              row₂.values[i₂]? = some (.int m₂) → m = m₁ + m₂) ∧
          ((∀ w ∈ [r.window, r₁.window, r₂.window], s.FoundFits n.actorTable w a.id counter c.scopes) →
            ∃ m m₁ m₂, row.values[i]? = some (.int m) ∧ row₁.values[i₁]? = some (.int m₁) ∧
              row₂.values[i₂]? = some (.int m₂))) ∧
      ∀ k actorId, s.loses n.actorTable k actorId = true → (∃ f, k.scope = .logged f) ∧ n.suffix ≠ "_v2" := by
  subst named
  have columns : ∀ {list : List Column} {i : Nat} {c : Column}, list[i]? = some c → list ≠ [] := by
    rintro _ i c found rfl
    cases found
  have noNumber : ∀ c' : Column, c'.type = c.type → c'.type ≠ .rowNumber := by
    rintro c' same number
    rw [type, number] at same
    cases same
  have scopes : ∀ c' : Column, c'.parameter = c.parameter → c'.scopes = c.scopes := by
    intro c' same
    rw [Column.scopes, Column.scopes, same]
  -- each report shows what the store gives for the actor of a row, and one id is one actor in all three
  obtain ⟨ladder, rows, -, rfl, shows⟩ := shown_of_compile stored keyed (columns asked) h
  obtain ⟨ladder₁, rows₁, -, rfl, shows₁⟩ := shown_of_compile stored keyed (columns asked₁) h₁
  obtain ⟨ladder₂, rows₂, -, rfl, shows₂⟩ := shown_of_compile stored keyed (columns asked₂) h₂
  refine ⟨rows, rows₁, rows₂, rfl, rfl, rfl, ?_, fun k actorId => Store.logged_of_loses⟩
  intro row listed row₁ listed₁ row₂ listed₂ same₁ same₂
  obtain ⟨a, known, id, cells⟩ := shows row listed
  obtain ⟨a₁, known₁, id₁, cells₁⟩ := shows₁ row₁ listed₁
  obtain ⟨a₂, known₂, id₂, cells₂⟩ := shows₂ row₂ listed₂
  obtain rfl : a₁ = a := List.inj_on_of_nodup_map keyed.actors known₁ known (Cell.int.inj (id₁ ▸ same₁.trans id))
  obtain rfl : a₂ = a₁ := List.inj_on_of_nodup_map keyed.actors known₂ known (Cell.int.inj (id₂ ▸ same₂.trans id))
  have cell := cells i c asked (noNumber c rfl)
  have cell₁ := cells₁ i₁ c₁ asked₁ (noNumber c₁ type₁)
  have cell₂ := cells₂ i₂ c₂ asked₂ (noNumber c₂ type₂)
  rw [window] at cell
  rw [window₁, wiki₁] at cell₁
  rw [window₂, wiki₂] at cell₂
  refine ⟨a₂, known, id, fun alike m m₁ m₂ shown shown₁ shown₂ => ?_, fun fits => ?_⟩
  · have whole := Store.eq_found_of_shown type (Option.some.inj (cell.symm.trans shown))
    have early := Store.eq_found_of_shown (type₁.trans type) (Option.some.inj (cell₁.symm.trans shown₁))
    have late := Store.eq_found_of_shown (type₂.trans type) (Option.some.inj (cell₂.symm.trans shown₂))
    rw [scopes c₁ parameter₁] at early
    rw [scopes c₂ parameter₂] at late
    rw [whole, early, late, Store.found_eq_add follows first last alike]
  · rw [Store.shown_eq_found type (window ▸ fits r.window (by simp))] at cell
    rw [Store.shown_eq_found (type₁.trans type)
      (scopes c₁ parameter₁ ▸ window₁ ▸ fits r₁.window (by simp))] at cell₁
    rw [Store.shown_eq_found (type₂.trans type)
      (scopes c₂ parameter₂ ▸ window₂ ▸ fits r₂.window (by simp))] at cell₂
    exact ⟨_, _, _, cell, cell₁, cell₂⟩

/-- The edits between two days, asked for of actors with four edits at most. -/
def Json.ofEdits (first last : String) : Json :=
  .object [("wikiId", .text "w"), ("columns", .list [.object [("type", .text "editsInPeriod")]]),
    ("requirements", .object [("totalEditsAtMost", .int 4)]), ("startDate", .text first), ("endDate", .text last)]

/-- A row of an answer with one whole number shows that number in its first column. -/
lemma Answer.exists_of_whole {rows : List ActorRow} {id v : Int} {rest : List (Option Int × List (Option Int))}
    (h : (Answer.rows rows).wholes = (some id, [some v]) :: rest) :
    ∃ row ∈ rows, row.id = .int id ∧ row.values[0]? = some (.int v) := by
  have whole : ∀ {c : Cell} {n : Int}, c.int? = some n → c = .int n := by
    intro c n same
    cases c <;> simp_all [Cell.int?]
  obtain ⟨row, listed, same⟩ := List.mem_map.1 (h ▸ List.mem_cons_self : (some id, [some v]) ∈ (Answer.rows rows).wholes)
  refine ⟨row, listed, whole (congrArg Prod.fst same), ?_⟩
  have values : row.values.map Cell.int? = [some v] := congrArg Prod.snd same
  obtain ⟨cell, only, same⟩ := List.map_eq_singleton_iff.1 values
  rw [only, whole same]
  rfl

/-- Three edits in seven months are two in the first one and one in the others. -/
theorem Service.added_of_small :
    ∃ r r₁ r₂ cut next c rows rows₁ rows₂, Payload.readRequest (Json.ofEdits "2023-05-01" "2023-11-30") = .ok r ∧
      Payload.readRequest (Json.ofEdits "2023-05-01" "2023-05-31") = .ok r₁ ∧
      Payload.readRequest (Json.ofEdits "2023-06-01" "2023-11-30") = .ok r₂ ∧ Date.addDays? cut 1 = some next ∧
      r₁.window.finish = cut ∧ r₂.window.start = some next ∧ r.columns = [c] ∧ r₁.columns = [c] ∧ r₂.columns = [c] ∧
      ((small.compile none r).run []).result = .ok (.rows rows) ∧
      ((small.compile none r₁).run []).result = .ok (.rows rows₁) ∧
      ((small.compile none r₂).run []).result = .ok (.rows rows₂) ∧
      ∃ row ∈ rows, ∃ row₁ ∈ rows₁, ∃ row₂ ∈ rows₂, row₁.id = row.id ∧ row₂.id = row.id ∧
        ∃ m m₁ m₂, row.values[0]? = some (.int m) ∧ row₁.values[0]? = some (.int m₁) ∧
          row₂.values[0]? = some (.int m₂) ∧ m = m₁ + m₂ := by
  obtain ⟨r, r₁, r₂, cut, next, first, last, c, parsed, parsed₁, parsed₂, succeeds, succeeds₁, succeeds₂, wiki₁, wiki₂,
      window, window₁, window₂, follows, columns, columns₁, columns₂, type, scopes⟩ :
      ∃ (r r₁ r₂ : Request) (cut next first last : Date) (c : Column), Payload.readRequest (Json.ofEdits "2023-05-01" "2023-11-30") = .ok r ∧
      Payload.readRequest (Json.ofEdits "2023-05-01" "2023-05-31") = .ok r₁ ∧
      Payload.readRequest (Json.ofEdits "2023-06-01" "2023-11-30") = .ok r₂ ∧
      (((small.compile none r).run []).result.toOption.any fun a =>
        a.wholes == [(some 1, [some 3])]) = true ∧
      (((small.compile none r₁).run []).result.toOption.any fun a =>
        a.wholes == [(some 1, [some 2])]) = true ∧
      (((small.compile none r₂).run []).result.toOption.any fun a =>
        a.wholes == [(some 1, [some 1])]) = true ∧
      r₁.wikiId = r.wikiId ∧ r₂.wikiId = r.wikiId ∧ r.window = ⟨some first, last⟩ ∧ r₁.window = ⟨some first, cut⟩ ∧
      r₂.window = ⟨some next, last⟩ ∧ cut.addDays? 1 = some next ∧ r.columns = [c] ∧ r₁.columns = [c] ∧
      r₂.columns = [c] ∧ c.type = .count .edits .inPeriod .none .whole ∧ c.scopes = [.whole] :=
    ⟨_, _, _, _, _, _, _, _, rfl, rfl, rfl, by decide +kernel, by decide +kernel, by decide +kernel, rfl, rfl, rfl,
      rfl, rfl, by decide, rfl, rfl, rfl, rfl, rfl⟩
  obtain ⟨answer, compiled, shown⟩ := exists_of_any succeeds
  obtain ⟨answer₁, compiled₁, shown₁⟩ := exists_of_any succeeds₁
  obtain ⟨answer₂, compiled₂, shown₂⟩ := exists_of_any succeeds₂
  have asked : ∀ {list : List Column}, list = [c] → list[0]? = some c := by
    rintro _ rfl
    rfl
  obtain ⟨rows, rows₁, rows₂, rfl, rfl, rfl, sums, -⟩ := added_of_compile rfl Store.wellKeyed_small wiki₁ wiki₂ follows
    window window₁ window₂ compiled compiled₁ compiled₂ (asked columns) (asked columns₁) (asked columns₂) type rfl rfl
    rfl rfl rfl
  obtain ⟨row, listed, id, value⟩ := Answer.exists_of_whole (eq_of_beq shown)
  obtain ⟨row₁, listed₁, id₁, value₁⟩ := Answer.exists_of_whole (eq_of_beq shown₁)
  obtain ⟨row₂, listed₂, id₂, value₂⟩ := Answer.exists_of_whole (eq_of_beq shown₂)
  obtain ⟨a, -, -, sum, -⟩ := sums row listed row₁ listed₁ row₂ listed₂ (id₁.trans id.symm) (id₂.trans id.symm)
  -- with tables of the usual version no key loses its row
  have kept : ∀ k, Store.small.loses (small.settings.naming r.wikiId).actorTable k a.id = false :=
    fun k => Bool.eq_false_iff.2 fun lost => (Store.logged_of_loses lost).2 rfl
  exact ⟨r, r₁, r₂, cut, next, c, rows, rows₁, rows₂, parsed, parsed₁, parsed₂, follows, by rw [window₁],
    by rw [window₂], columns, columns₁, columns₂, compiled, compiled₁, compiled₂, row, listed, row₁, listed₁, row₂,
    listed₂, id₁.trans id.symm, id₂.trans id.symm, _, _, _, value, value₁, value₂,
    sum (fun scope _ => (kept _).trans (kept _).symm) _ _ _ value value₁ value₂⟩

/-! ### A cut that loses a row -/

/-- The service of the store whose table of actors is hidden from the rows up to the end of June. -/
def Service.ofHiddenCut : Service :=
  { Service.ofHiddenType with settings := ⟨none, "resources", "_20230630_asof", "INFO", false, "bot"⟩ }

/-- The log events of one type between two days, asked for of the actors in a group. -/
def Json.ofHiddenCut (first last : String) : Json :=
  .object [("wikiId", .text "actorEnd_Lt_5f"), ("columns", .list [.object [
      ("type", .text "logEventsInPeriodByType"), ("logFilter", .object [("logType", .text "_actor")])]]),
    ("requirements", .object [("userGroups", .list [.text "g"])]), ("startDate", .text first),
    ("endDate", .text last)]

/-- The log event of May is there in a whole year, and in neither of its halves. -/
theorem Service.added_fails_of_hidden_cut :
    Store.ofHiddenType.WellKeyed ∧ ∃ r r₁ r₂ rows rows₁ rows₂ first cut next last,
      Payload.readRequest (Json.ofHiddenCut "2023-01-01" "2023-12-31") = .ok r ∧
      Payload.readRequest (Json.ofHiddenCut "2023-01-01" "2023-06-30") = .ok r₁ ∧
      Payload.readRequest (Json.ofHiddenCut "2023-07-01" "2023-12-31") = .ok r₂ ∧
      r.window = ⟨some first, last⟩ ∧ r₁.window = ⟨some first, cut⟩ ∧ r₂.window = ⟨some next, last⟩ ∧
      Date.addDays? cut 1 = some next ∧
      ((ofHiddenCut.compile none r).run []).result = .ok (.rows rows) ∧
      ((ofHiddenCut.compile none r₁).run []).result = .ok (.rows rows₁) ∧
      ((ofHiddenCut.compile none r₂).run []).result = .ok (.rows rows₂) ∧
      (Answer.rows rows).wholes = [(some 1, [some 1])] ∧ (Answer.rows rows₁).wholes = [(some 1, [some 0])] ∧
      (Answer.rows rows₂).wholes = [(some 1, [some 0])] := by
  refine ⟨⟨by decide, by decide, by decide, by decide⟩, ?_⟩
  obtain ⟨r, r₁, r₂, first, cut, next, last, parsed, parsed₁, parsed₂, succeeds, succeeds₁, succeeds₂, window, window₁,
      window₂, follows⟩ : ∃ (r r₁ r₂ : Request) (first cut next last : Date),
      Payload.readRequest (Json.ofHiddenCut "2023-01-01" "2023-12-31") = .ok r ∧
      Payload.readRequest (Json.ofHiddenCut "2023-01-01" "2023-06-30") = .ok r₁ ∧
      Payload.readRequest (Json.ofHiddenCut "2023-07-01" "2023-12-31") = .ok r₂ ∧
      (((ofHiddenCut.compile none r).run []).result.toOption.any fun a => a.wholes == [(some 1, [some 1])]) = true ∧
      (((ofHiddenCut.compile none r₁).run []).result.toOption.any fun a => a.wholes == [(some 1, [some 0])]) = true ∧
      (((ofHiddenCut.compile none r₂).run []).result.toOption.any fun a => a.wholes == [(some 1, [some 0])]) = true ∧
      r.window = ⟨some first, last⟩ ∧ r₁.window = ⟨some first, cut⟩ ∧ r₂.window = ⟨some next, last⟩ ∧
      cut.addDays? 1 = some next :=
    ⟨_, _, _, _, _, _, _, rfl, rfl, rfl, by decide +kernel, by decide +kernel, by decide +kernel, rfl, rfl, rfl,
      by decide⟩
  have rows : ∀ {answer : Answer} {values}, (answer.wholes == [(some 1, [some values])]) = true →
      ∃ rows, answer = .rows rows ∧ (Answer.rows rows).wholes = [(some 1, [some values])] := by
    intro answer values shown
    cases answer with
    | rows rows => exact ⟨rows, rfl, eq_of_beq shown⟩
    | ids list => cases eq_of_beq shown
  obtain ⟨answer, compiled, shown⟩ := exists_of_any succeeds
  obtain ⟨answer₁, compiled₁, shown₁⟩ := exists_of_any succeeds₁
  obtain ⟨answer₂, compiled₂, shown₂⟩ := exists_of_any succeeds₂
  obtain ⟨list, rfl, one⟩ := rows shown
  obtain ⟨list₁, rfl, zero₁⟩ := rows shown₁
  obtain ⟨list₂, rfl, zero₂⟩ := rows shown₂
  exact ⟨r, r₁, r₂, list, list₁, list₂, first, cut, next, last, parsed, parsed₁, parsed₂, window, window₁, window₂,
    follows, compiled, compiled₁, compiled₂, one, zero₁, zero₂⟩

end ActivityReport
