import ActivityReport.Proofs.Payload.Condition

/-!
# Columns from payloads

Every column of a request that was read from a payload is of a type on offer
(`Payload.type_mem_all_of_readRequest`).
-/

namespace ActivityReport.Payload

open Checked

variable {α : Type}

/-- Each item of a list was read from a payload. -/
lemma exists_of_readItems {read : Reader α} {i : Nat} {items : List Json} {list : List α}
    (h : readItems read i items = ok list) {a : α} (listed : a ∈ list) : ∃ json, read json = ok a := by
  induction items generalizing i list with
  | nil =>
    cases h
    cases listed
  | cons json rest ih =>
    obtain ⟨g, others, first, restOk, rfl⟩ := seq_eq_ok_iff.1 h
    obtain ⟨a', own, rfl⟩ := map_eq_ok_iff.1 first
    rcases List.mem_cons.1 listed with rfl | listed
    · exact ⟨json, under_eq_ok_iff.1 own⟩
    · exact ih restOk listed

lemma exists_of_readList {read : Reader α} {json : Json} {list : List α} (h : readList read json = ok list) {a : α}
    (listed : a ∈ list) : ∃ json, read json = ok a := by
  unfold readList readListOr at h
  split at h
  · exact exists_of_readItems h listed
  · cases h

/-- Each item of a field with a list was read from a payload. -/
lemma exists_of_defaulted_readList {entries : Entries} {f : FieldName} {read : Reader α} {list : List α}
    (h : defaulted entries f [] (readList read) = ok list) {a : α} (listed : a ∈ list) :
    ∃ json, read json = ok a := by
  unfold defaulted at h
  split at h
  · exact exists_of_readList (under_eq_ok_iff.1 h) listed
  · cases h
    cases listed

/-- A column type that was read is on offer. -/
lemma mem_all_of_readColumnType {json : Json} {type : ColumnType} (h : readColumnType json = ok type) :
    type ∈ ColumnType.all := by
  unfold readColumnType at h
  split at h
  · split at h
    · rename_i found
      cases h
      exact (ColumnType.ofTag?_eq_some found).1
    · cases h
  · cases h
  · cases h

/-- A column made of parameters is of the type that they are given for. -/
lemma type_of_ofParameters {type : ColumnType} {id : Option String} {g : GivenParameters} {moreThanZero : Bool}
    {c : Column} (h : Column.ofParameters type id g moreThanZero = ok c) : c.type = type := by
  unfold Column.ofParameters at h
  split at h
  · cases h
  · cases h
    rfl

/-- A column that was read is of a type on offer. -/
lemma type_mem_all_of_readColumn {json : Json} {c : Column} (h : readColumn json = ok c) :
    c.type ∈ ColumnType.all := by
  obtain ⟨made, h, isColumn⟩ := andThen_eq_ok_iff.1 h
  obtain ⟨entries, h₀⟩ := exists_of_readStrict h
  obtain ⟨g₁, rule, h₁, -, rfl⟩ := seq_eq_ok_iff.1 h₀
  obtain ⟨g₂, parameters, h₂, -, rfl⟩ := seq_eq_ok_iff.1 h₁
  obtain ⟨g₃, id, h₃, -, rfl⟩ := seq_eq_ok_iff.1 h₂
  obtain ⟨type, readType, rfl⟩ := map_eq_ok_iff.1 h₃
  obtain ⟨json, readType⟩ := exists_of_required readType
  rw [type_of_ofParameters isColumn]
  exact mem_all_of_readColumnType readType

/-- Every column of a request that was read is of a type on offer. -/
lemma type_mem_all_of_readRequest {json : Json} {r : Request} (h : readRequest json = ok r) :
    ∀ c ∈ r.columns, c.type ∈ ColumnType.all := by
  intro c listed
  obtain ⟨entries, read, -⟩ := exists_of_readRequest h
  obtain ⟨json, own⟩ := exists_of_defaulted_readList read listed
  exact type_mem_all_of_readColumn own

end ActivityReport.Payload
