import ActivityReport.Payload.Dump
import ActivityReport.Proofs.Payload.Condition
import Mathlib.Tactic.Lemma

/-!
# Entries of an object

What the fields of an object come to depends on the values that stand under one of their spellings, and not on which
spelling it is (`Payload.given?`). The fields of a model have no spelling in common, so that fields that are written side
by side are all found again, and nothing else is found beside them (`Payload.readStrict_of_written`).
-/

namespace ActivityReport

namespace Checked

variable {α β : Type}

lemma value?_eq_some_iff {x : Checked α} {a : α} : x.value? = some a ↔ x = ok a := by
  cases x <;> simp [value?]

lemma value?_map (f : α → β) (x : Checked α) : (f <$> x).value? = x.value?.map f := by
  cases x <;> rfl

lemma value?_seq (f : Checked (α → β)) (x : Checked α) :
    (f <*> x).value? = f.value?.bind fun g => x.value?.map g := by
  cases f <;> cases x <;> rfl

lemma value?_under (key : String) (x : Checked α) : (x.under key).value? = x.value? := by
  cases x <;> rfl

lemma value?_andThen (x : Checked α) (next : α → Checked β) :
    (x.andThen next).value? = x.value?.bind fun a => (next a).value? := by
  cases x <;> rfl

end Checked

/-- Whether two fields have no spelling in common. -/
def FieldName.Apart (f g : FieldName) : Prop :=
  f.wire ≠ g.wire ∧ f.wire ≠ g.other ∧ f.other ≠ g.wire ∧ f.other ≠ g.other

instance (f g : FieldName) : Decidable (f.Apart g) :=
  inferInstanceAs (Decidable (f.wire ≠ g.wire ∧ f.wire ≠ g.other ∧ f.other ≠ g.wire ∧ f.other ≠ g.other))

lemma FieldName.Apart.symm {f g : FieldName} (h : f.Apart g) : g.Apart f :=
  ⟨h.1.symm, h.2.2.1.symm, h.2.1.symm, h.2.2.2.symm⟩

lemma Json.lookup?_append (key : String) (first last : List (String × Json)) :
    lookup? key (first ++ last) = (lookup? key first).or (lookup? key last) := by
  induction first with
  | nil => rfl
  | cons e rest ih =>
    rw [List.cons_append, lookup?, lookup?]
    split
    · rfl
    · exact ih

lemma Json.lookup?_eq_none {key : String} {entries : List (String × Json)} (absent : key ∉ entries.map Prod.fst) :
    lookup? key entries = none := by
  induction entries with
  | nil => rfl
  | cons e rest ih =>
    rw [List.map_cons, List.mem_cons, not_or] at absent
    rw [lookup?, if_neg (Ne.symm absent.1), ih absent.2]

namespace Payload

open Checked

/-- The fields of a threshold. -/
def thresholdFields (form : ScopeForm) (inPeriod : Bool) : List FieldName :=
  scopeFields form ++ [Name.count] ++ (if inPeriod then [Name.period] else []) ++ [Name.epoch]

lemma apart_thresholdFields (form : ScopeForm) (inPeriod : Bool) :
    (thresholdFields form inPeriod).Pairwise FieldName.Apart := by
  cases form <;> cases inPeriod <;> decide

/-- No two criteria on offer have a spelling of their fields in common. -/
lemma apart_criteria : (Criterion.all.map Criterion.field).Pairwise FieldName.Apart := by decide +kernel

variable {α : Type} {entries : Entries} {f : FieldName} {read : Reader α} {a : α}

/-! ## Values of fields -/

/-- The value of a field, whichever spelling it is given under. -/
def given? (entries : Entries) (f : FieldName) : Option Json := (field? entries f).map Prod.snd

lemma given?_eq (entries : Entries) (f : FieldName) :
    given? entries f = (Json.lookup? f.wire entries).or (Json.lookup? f.other entries) := by
  unfold given? field?
  cases Json.lookup? f.wire entries with
  | some j => rfl
  | none => cases Json.lookup? f.other entries <;> rfl

lemma value?_required : (required entries f read).value? = (given? entries f).bind fun j => (read j).value? := by
  unfold required given?
  cases field? entries f with
  | none => rfl
  | some e => exact value?_under _ _

lemma value?_defaulted : (defaulted entries f a read).value? =
    (given? entries f).elim (some a) fun j => (read j).value? := by
  unfold defaulted given?
  cases field? entries f with
  | none => rfl
  | some e => exact value?_under _ _

/-- What is not null is read as if it had to be there. -/
lemma value?_optional {j : Json} (present : j ≠ .null) : (optional read j).value? = (read j).value?.map some := by
  have read : optional read j = some <$> read j := by
    cases j with
    | null => exact absurd rfl present
    | _ => rfl
  rw [read, value?_map]

/-! ## Fields side by side -/

/-- The entries of some fields, of which some may be absent. -/
def writeFields (fields : List (FieldName × Option Json)) : Entries :=
  fields.flatMap fun p => p.2.elim [] (entry p.1)

lemma writeFields_cons (f : FieldName) (v : Option Json) (fields : List (FieldName × Option Json)) :
    writeFields ((f, v) :: fields) = v.elim [] (entry f) ++ writeFields fields := rfl

lemma presentEntry_eq (f : FieldName) (write : α → Json) (a : Option α) :
    presentEntry f write a = (a.map write).elim [] (entry f) := by
  cases a <;> rfl

variable {fields : List (FieldName × Option Json)} {v : Option Json}

/-- A key is written for one of the fields, under its wire spelling. -/
lemma exists_of_mem_writeFields {key : String} (h : key ∈ (writeFields fields).map Prod.fst) :
    ∃ f j, (f, some j) ∈ fields ∧ key = f.wire := by
  obtain ⟨e, written, rfl⟩ := List.mem_map.1 h
  obtain ⟨⟨f, v⟩, listed, own⟩ := List.mem_flatMap.1 written
  cases v with
  | none => cases own
  | some j =>
    obtain rfl := List.mem_singleton.1 own
    exact ⟨f, j, listed, rfl⟩

lemma field?_eq_none (apart : ∀ p ∈ fields, f.Apart p.1) : field? (writeFields fields) f = none := by
  have absent : ∀ key, (∀ p ∈ fields, key ≠ p.1.wire) → Json.lookup? key (writeFields fields) = none := by
    intro key others
    apply Json.lookup?_eq_none
    intro written
    obtain ⟨g, j, listed, own⟩ := exists_of_mem_writeFields written
    exact others _ listed own
  rw [field?, absent _ fun p listed => (apart p listed).1, absent _ fun p listed => (apart p listed).2.2.1]
  rfl

/-- Each field is found, with what was written in it. -/
lemma field?_writeFields (apart : (fields.map Prod.fst).Pairwise FieldName.Apart) (listed : (f, v) ∈ fields) :
    field? (writeFields fields) f = v.map (f.wire, ·) := by
  induction fields with
  | nil => cases listed
  | cons p rest ih =>
    obtain ⟨g, w⟩ := p
    rw [List.map_cons, List.pairwise_cons] at apart
    obtain ⟨others, apart⟩ := apart
    rw [writeFields_cons]
    rcases List.mem_cons.1 listed with own | later
    · obtain ⟨rfl, rfl⟩ := Prod.ext_iff.1 own
      cases v with
      | some j => simp [field?, entry, Json.lookup?]
      | none => exact field?_eq_none fun p listed => others _ (List.mem_map_of_mem listed)
    · have apart' : g.Apart f := others f (List.mem_map.2 ⟨_, later, rfl⟩)
      rw [← ih apart later]
      -- the entry in front is of another field
      cases w with
      | none => rfl
      | some j => simp [field?, entry, Json.lookup?, apart'.1, apart'.2.1]

lemma given?_writeFields (apart : (fields.map Prod.fst).Pairwise FieldName.Apart) (listed : (f, v) ∈ fields) :
    given? (writeFields fields) f = v := by
  rw [given?, field?_writeFields apart listed, Option.map_map]
  exact Option.map_id'

/-- There is nothing beside the fields. -/
lemma noExtras_writeFields (apart : (fields.map Prod.fst).Pairwise FieldName.Apart) :
    noExtras (writeFields fields) (fields.map Prod.fst) = ok () := by
  have used : ∀ key ∈ (writeFields fields).map Prod.fst,
      key ∈ usedKeys (writeFields fields) (fields.map Prod.fst) := by
    intro key written
    obtain ⟨f, j, listed, rfl⟩ := exists_of_mem_writeFields written
    refine List.mem_filterMap.2 ⟨f, List.mem_map.2 ⟨_, listed, rfl⟩, ?_⟩
    rw [field?_writeFields apart listed]
    rfl
  have none : ((writeFields fields).map Prod.fst).filter
      (fun key => !(usedKeys (writeFields fields) (fields.map Prod.fst)).contains key) = [] := by
    apply List.filter_eq_nil_iff.2
    intro key written
    simp [used key written]
  rw [noExtras, none]

/-- Whether each of some fields has its value among some entries, or none. -/
def Holds (entries : Entries) (fields : List (FieldName × Option Json)) : Prop :=
  ∀ p ∈ fields, given? entries p.1 = p.2

namespace Holds

lemma required (h : Holds entries fields) {j : Json} (reads : read j = ok a) (listed : (f, some j) ∈ fields) :
    required entries f read = ok a := by
  rw [← value?_eq_some_iff, value?_required, h _ listed]
  exact value?_eq_some_iff.2 reads

lemma defaulted (h : Holds entries fields) {absent : α} {j : Json} (reads : read j = ok a)
    (listed : (f, some j) ∈ fields) : defaulted entries f absent read = ok a := by
  rw [← value?_eq_some_iff, value?_defaulted, h _ listed]
  exact value?_eq_some_iff.2 reads

lemma defaulted_of_absent (h : Holds entries fields) {absent : α} (listed : (f, none) ∈ fields) :
    Payload.defaulted entries f absent read = ok absent := by
  rw [← value?_eq_some_iff, value?_defaulted, h _ listed]
  rfl

lemma possible (h : Holds entries fields) (write : α → Json) {o : Option α}
    (reads : ∀ a ∈ o, write a ≠ .null ∧ read (write a) = ok a) (listed : (f, o.map write) ∈ fields) :
    possible entries f read = ok o := by
  rw [Payload.possible, ← value?_eq_some_iff, value?_defaulted, h _ listed]
  cases o with
  | none => rfl
  | some a =>
    obtain ⟨present, own⟩ := reads a rfl
    show (optional read (write a)).value? = some (some a)
    rw [value?_optional present, own]
    rfl

end Holds

/-- A model is read from its fields when they are written side by side. -/
lemma readStrict_of_written (fields : List (FieldName × Option Json)) {model : String} {names : List FieldName}
    {read : Entries → Checked α} {j : Json} (written : j = .object (writeFields fields)) (own : fields.map Prod.fst = names)
    (apart : names.Pairwise FieldName.Apart) (h : ∀ entries, Holds entries fields → read entries = ok a) :
    readStrict model names read j = ok a := by
  subst written own
  show (fun a _ => a) <$> read (writeFields fields) <*> noExtras (writeFields fields) (fields.map Prod.fst) = ok a
  rw [h _ fun p listed => given?_writeFields apart listed, noExtras_writeFields apart]
  rfl

/-- So is a model that does not mind other keys. -/
lemma readObject_of_written (fields : List (FieldName × Option Json)) {model : String}
    {read : Entries → Checked α} {j : Json} (written : j = .object (writeFields fields))
    (apart : (fields.map Prod.fst).Pairwise FieldName.Apart)
    (h : ∀ entries, Holds entries fields → read entries = ok a) : readObject model read j = ok a := by
  subst written
  exact h _ fun p listed => given?_writeFields apart listed

end Payload

end ActivityReport
