import ActivityReport.Payload.Request
import Mathlib.Tactic.Lemma

/-!
# Conditions from payloads

What a condition can look at that was read from a payload. A value that is read strictly was read from
the entries of an object, field by field; from this it follows that every condition of a request that was
read is on offer (`Payload.criterion_mem_all_of_readRequest`), so that no threshold counts a filter of log
events (`Payload.not_countsLogs_of_readRequest`).
-/

namespace ActivityReport

/-- Whether a condition counts a filter of log events. -/
def Condition.CountsLogs : Condition → Prop
  | threshold t => ∃ f, .logged f ∈ t.scopes.toList
  | _ => False

namespace Checked

variable {α β : Type}

/-- A function of a value gives a value exactly when there is the value. -/
lemma map_eq_ok_iff {f : α → β} {x : Checked α} {b : β} : f <$> x = ok b ↔ ∃ a, x = ok a ∧ f a = b := by
  rw [map_eq]
  cases x <;> simp [Checked.map]

/-- A value seen from further out is the value. -/
lemma under_eq_ok_iff {key : String} {x : Checked α} {a : α} : x.under key = ok a ↔ x = ok a := by
  cases x <;> simp [under]

/-- Each of some results side by side comes from one of the items. -/
lemma exists_of_all_eq_ok {f : α → Checked β} {list : List α} {results : List β} (h : all f list = ok results)
    {b : β} (listed : b ∈ results) : ∃ a ∈ list, f a = ok b := by
  induction list generalizing results with
  | nil =>
    cases h
    cases listed
  | cons a rest ih =>
    obtain ⟨g, others, first, restOk, rfl⟩ := seq_eq_ok_iff.1 h
    obtain ⟨b', own, rfl⟩ := map_eq_ok_iff.1 first
    rcases List.mem_cons.1 listed with rfl | listed
    · exact ⟨a, List.mem_cons_self, own⟩
    · obtain ⟨a', listed', own'⟩ := ih restOk listed
      exact ⟨a', List.mem_cons_of_mem _ listed', own'⟩

end Checked

namespace Payload

open Checked

variable {α : Type}

/-- A field that may be absent holds what was read for it. -/
lemma exists_of_possible {entries : Entries} {f : FieldName} {read : Reader α} {a : α}
    (h : possible entries f read = ok (some a)) : ∃ json, read json = ok a := by
  unfold possible defaulted at h
  split at h
  · rename_i key json found
    rw [under_eq_ok_iff] at h
    unfold optional at h
    split at h
    · cases h
    · obtain ⟨a', own, same⟩ := map_eq_ok_iff.1 h
      cases same
      exact ⟨_, own⟩
  · cases h

/-- What is read from an object is read from its entries. -/
lemma exists_of_readObject {model : String} {read : Entries → Checked α} {json : Json} {a : α}
    (h : readObject model read json = ok a) : ∃ entries, read entries = ok a := by
  unfold readObject at h
  split at h
  · exact ⟨_, h⟩
  · exact ⟨_, h⟩
  · cases h

/-- What is read strictly is read from the entries of an object. -/
lemma exists_of_readStrict {model : String} {fields : List FieldName} {read : Entries → Checked α} {json : Json}
    {a : α} (h : readStrict model fields read json = ok a) : ∃ entries, read entries = ok a := by
  unfold readStrict at h
  split at h
  · cases h
  · obtain ⟨entries, h⟩ := exists_of_readObject h
    obtain ⟨g, u, first, -, rfl⟩ := seq_eq_ok_iff.1 h
    obtain ⟨a', own, rfl⟩ := map_eq_ok_iff.1 first
    exact ⟨entries, own⟩

/-- A field that must be there holds what was read for it. -/
lemma exists_of_required {entries : Entries} {f : FieldName} {read : Reader α} {a : α}
    (h : required entries f read = ok a) : ∃ json, read json = ok a := by
  unfold required at h
  split at h
  · exact ⟨_, under_eq_ok_iff.1 h⟩
  · cases h

end Payload

/-! ## Criteria on offer -/

/-- No threshold on offer counts filters of log events. -/
lemma Criterion.form_ne_logFilters {form : ScopeForm} {counter : Counter} {inPeriod : Bool} {comparison : Comparison}
    (offered : .threshold form counter inPeriod comparison ∈ all) : form ≠ .logFilters := by
  rintro rfl
  revert offered
  cases counter <;> cases inPeriod <;> cases comparison <;> decide

/-- A condition on offer counts no filter of log events. -/
lemma Condition.not_countsLogs {c : Condition} (offered : c.criterion ∈ Criterion.all) : ¬ c.CountsLogs := by
  cases c with
  | threshold t =>
    rintro ⟨f, listed⟩
    have form : t.scopes.form ≠ .logFilters := Criterion.form_ne_logFilters offered
    cases scopes : t.scopes with
    | logFilters filters => exact form (by rw [scopes]; rfl)
    | whole | namespaces ids | changeTags filters => simp [scopes, Scopes.toList] at listed
  | _ => exact id

namespace Payload

open Checked

/-- The scopes that are read for a threshold on offer are of its form. -/
lemma form_of_readScopes {form : ScopeForm} {entries : Entries} {scopes : Scopes} (noLogs : form ≠ .logFilters)
    (h : readScopes form entries = ok scopes) : scopes.form = form := by
  cases form with
  | whole =>
    cases h
    rfl
  | logFilters => exact absurd rfl noLogs
  | namespaces =>
    obtain ⟨ids, -, rfl⟩ := map_eq_ok_iff.1 h
    rfl
  | changeTags =>
    obtain ⟨filters, -, rfl⟩ := map_eq_ok_iff.1 h
    rfl

/-- The period is read for thresholds over a period only. -/
lemma isSome_of_readPeriod {inPeriod : Bool} {entries : Entries} {period : Option Nat}
    (h : readPeriod inPeriod entries = ok period) : period.isSome = inPeriod := by
  cases inPeriod with
  | false =>
    cases h
    rfl
  | true =>
    obtain ⟨days, -, rfl⟩ := map_eq_ok_iff.1 h
    rfl

/-- A threshold that is read looks at what it was read for. -/
lemma criterion_of_readThreshold {form : ScopeForm} {counter : Counter} {inPeriod : Bool} {comparison : Comparison}
    {json : Json} {t : Threshold} (noLogs : form ≠ .logFilters)
    (h : readThreshold form counter inPeriod comparison json = ok t) :
    (Condition.threshold t).criterion = .threshold form counter inPeriod comparison := by
  obtain ⟨entries, h₀⟩ := exists_of_readStrict h
  obtain ⟨g₁, epoch, h₁, -, rfl⟩ := seq_eq_ok_iff.1 h₀
  obtain ⟨g₂, period, h₂, readPeriod, rfl⟩ := seq_eq_ok_iff.1 h₁
  obtain ⟨g₃, count, h₃, -, rfl⟩ := seq_eq_ok_iff.1 h₂
  obtain ⟨scopes, readScopes, rfl⟩ := map_eq_ok_iff.1 h₃
  show Criterion.threshold scopes.form counter period.isSome comparison = _
  rw [form_of_readScopes noLogs readScopes, isSome_of_readPeriod readPeriod]

/-- A condition looks at what it was read for. -/
lemma criterion_of_readCondition {criterion : Criterion} {json : Json} {c : Condition}
    (offered : criterion ∈ Criterion.all) (h : readCondition criterion json = ok c) : c.criterion = criterion := by
  cases criterion with
  | threshold form counter inPeriod comparison =>
    -- a whole number may have stood for the threshold, so that it was read from another payload
    have read : ∃ json' t, readThreshold form counter inPeriod comparison json' = ok t ∧ .threshold t = c := by
      cases form <;> cases inPeriod <;>
      · obtain ⟨t, own, same⟩ := map_eq_ok_iff.1 h
        exact ⟨_, t, own, same⟩
    obtain ⟨json', t, own, rfl⟩ := read
    exact criterion_of_readThreshold (Criterion.form_ne_logFilters offered) own
  | _ =>
    obtain ⟨_, -, rfl⟩ := map_eq_ok_iff.1 h
    rfl

/-- The columns and the requirements of a request are read from the fields of an object. -/
lemma exists_of_readRequest {json : Json} {r : Request} (h : readRequest json = ok r) :
    ∃ entries, defaulted entries Name.columns [] (readList readColumn) = ok r.columns ∧
      possible entries Name.requirements readRequirement = ok r.requirements := by
  obtain ⟨entries, h₀⟩ := exists_of_readStrict h
  obtain ⟨g₁, ladder, h₁, -, rfl⟩ := seq_eq_ok_iff.1 h₀
  obtain ⟨g₂, skipBots, h₂, -, rfl⟩ := seq_eq_ok_iff.1 h₁
  obtain ⟨g₃, window, h₃, -, rfl⟩ := seq_eq_ok_iff.1 h₂
  obtain ⟨g₄, itemCount, h₄, -, rfl⟩ := seq_eq_ok_iff.1 h₃
  obtain ⟨g₅, orderBy, h₅, -, rfl⟩ := seq_eq_ok_iff.1 h₄
  obtain ⟨g₆, requirements, h₆, required, rfl⟩ := seq_eq_ok_iff.1 h₅
  obtain ⟨g₇, columns, h₇, listed, rfl⟩ := seq_eq_ok_iff.1 h₆
  obtain ⟨wikiId, -, rfl⟩ := map_eq_ok_iff.1 h₇
  exact ⟨entries, listed, required⟩

/-- Every condition of a request that was read is on offer. -/
lemma criterion_mem_all_of_readRequest {json : Json} {r : Request} (h : readRequest json = ok r) :
    ∀ c ∈ r.conditions, c.criterion ∈ Criterion.all := by
  intro c listed
  obtain ⟨entries, -, read⟩ := exists_of_readRequest h
  unfold Request.conditions at listed
  cases requirements : r.requirements with
  | none =>
    rw [requirements] at listed
    cases listed
  -- the conditions are the fields that were read, each by the criterion of its field
  | some requirement =>
    rw [requirements] at listed read
    obtain ⟨json, readStrictly⟩ := exists_of_possible read
    obtain ⟨entries, readEntries⟩ := exists_of_readStrict readStrictly
    obtain ⟨conditions, readAll, rfl⟩ := map_eq_ok_iff.1 readEntries
    obtain ⟨_, asked, rfl⟩ := List.mem_filterMap.1 listed
    obtain ⟨criterion, offered, own⟩ := exists_of_all_eq_ok readAll asked
    obtain ⟨json, own⟩ := exists_of_possible own
    rw [criterion_of_readCondition offered own]
    exact offered

/-- The conditions of a request that was read count no filter of log events. -/
lemma not_countsLogs_of_readRequest {json : Json} {r : Request} (h : readRequest json = ok r) :
    ∀ c ∈ r.conditions, ¬ c.CountsLogs :=
  fun c listed => c.not_countsLogs (criterion_mem_all_of_readRequest h c listed)

end Payload

end ActivityReport
