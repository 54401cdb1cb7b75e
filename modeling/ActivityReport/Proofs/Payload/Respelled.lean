import ActivityReport.Proofs.Payload.Entries
import Mathlib.Data.List.Pairwise
import Mathlib.Logic.Relation

/-!
# Spellings of a request

A request can be spelled in many ways: its fields have two names each, a single value stands for the list of it, and a
whole number for a total threshold. `Payload.Respelled` is one change of spelling at any depth of a payload. What is read
does not change with it, nor whether anything is read (`Payload.readRequest_iff_of_respelled`): a model is read from the
values of its fields, whichever spelling they are given under, and each of these is read the same by its own reader.
-/

namespace ActivityReport

/-- Whether a key is one of the spellings of a field. -/
def FieldName.Spells (f : FieldName) (key : String) : Prop := key = f.wire ∨ key = f.other

instance (f : FieldName) (key : String) : Decidable (f.Spells key) :=
  inferInstanceAs (Decidable (key = f.wire ∨ key = f.other))

lemma FieldName.Apart.not_spells {f g : FieldName} (apart : f.Apart g) {key : String} (own : f.Spells key) :
    ¬ g.Spells key := by
  obtain ⟨wires, wireOther, otherWire, others⟩ := apart
  rintro (same | same)
  · rcases own with own | own
    · exact wires (own.symm.trans same)
    · exact otherWire (own.symm.trans same)
  · rcases own with own | own
    · exact wireOther (own.symm.trans same)
    · exact others (own.symm.trans same)

namespace Payload

open Checked

/-! ## Models and places -/

/-- The models that a request is made of. -/
inductive Model where
  | request
  | column
  | orderBy
  | rung
  | requirement
  | threshold (form : ScopeForm) (inPeriod : Bool)
  | changeTagFilter
  | logFilter

/-- What stands at a place of a payload. -/
inductive Place where
  | scalar
  | model (m : Model)
  /-- A list. -/
  | items (p : Place)
  /-- A list, or a single value that stands for the list of it. -/
  | many (p : Place)

/-- What stands in the field of a criterion. -/
def criterionPlace : Criterion → Place
  | .registrationAge _ => .scalar
  | .threshold form _ inPeriod _ => .model (.threshold form inPeriod)
  | .milestone _ => .items .scalar
  | _ => .many .scalar

/-- The fields in which a threshold lists its scopes. -/
def scopePlaces : ScopeForm → List (FieldName × Place)
  | .whole | .logFilters => []
  | .namespaces => [(Name.inNamespace, .many .scalar)]
  | .changeTags => [(Name.changeTag, .many (.model .changeTagFilter))]

/-- The fields of a model. -/
def Model.fields : Model → List (FieldName × Place)
  | .request => [(Name.wikiId, .scalar), (Name.columns, .items (.model .column)), (Name.requirements, .model .requirement),
      (Name.orderBy, .items (.model .orderBy)), (Name.itemCount, .scalar), (Name.startDate, .scalar),
      (Name.endDate, .scalar), (Name.skipBots, .scalar), (Name.serviceAwardLevels, .items (.model .rung))]
  | .column => [(Name.type, .scalar), (Name.columnId, .scalar), (Name.inNamespace, .many .scalar),
      (Name.changeTag, .many (.model .changeTagFilter)), (Name.logFilter, .many (.model .logFilter)),
      (Name.milestones, .many .scalar), (Name.filterByRule, .scalar)]
  | .orderBy => [(Name.columnId, .scalar), (Name.direction, .scalar)]
  | .rung => [(Name.id, .scalar), (Name.label, .scalar), (Name.requiredContributions, .scalar),
      (Name.requiredActiveDays, .scalar)]
  | .requirement => Criterion.all.map fun k => (k.field, criterionPlace k)
  | .threshold form inPeriod => scopePlaces form ++ [(Name.count, .scalar)] ++
      (if inPeriod then [(Name.period, .scalar)] else []) ++ [(Name.epoch, .scalar)]
  | .changeTagFilter => [(Name.changeTagId, .scalar), (Name.inNamespace, .scalar)]
  | .logFilter => [(Name.logType, .scalar), (Name.logAction, .scalar)]

/-- No two fields of a model have a spelling in common. -/
lemma Model.apart (m : Model) : (m.fields.map Prod.fst).Pairwise FieldName.Apart := by
  cases m with
  | threshold form inPeriod => cases form <;> cases inPeriod <;> decide
  | requirement =>
    rw [fields, List.map_map]
    exact apart_criteria
  | _ => decide

lemma Model.eq_or_apart {m : Model} {f g : FieldName} {p q : Place} (own : (f, p) ∈ m.fields)
    (other : (g, q) ∈ m.fields) : (f, p) = (g, q) ∨ f.Apart g := by
  have : Std.Symm fun a b : FieldName × Place => a.1.Apart b.1 := ⟨fun _ _ => FieldName.Apart.symm⟩
  by_cases same : (f, p) = (g, q)
  · exact Or.inl same
  · exact Or.inr ((List.pairwise_map.1 m.apart).forall own other same)

/-! ## Changes of spelling -/

/-- An object, of which some keys may be broken. -/
def objectOf (broken : Bool) (entries : Entries) : Json := if broken then .brokenObject entries else .object entries

/-- One change of spelling, at a place or somewhere inside it. -/
inductive Respelled : Place → Json → Json → Prop
  /-- A field of which one spelling is given is spelled in another way. -/
  | rename {m : Model} {f : FieldName} {p : Place} {broken : Bool} {first last : Entries} {key key' : String} {j : Json}
      (asked : (f, p) ∈ m.fields) (own : f.Spells key) (own' : f.Spells key')
      (only : ∀ e ∈ first ++ last, ¬ f.Spells e.1) :
      Respelled (.model m) (objectOf broken (first ++ (key, j) :: last)) (objectOf broken (first ++ (key', j) :: last))
  /-- A single value becomes the list of it. -/
  | wrap {p : Place} {j : Json} (present : j ≠ .null) (single : ∀ items, j ≠ .list items) :
      Respelled (.many p) j (.list [j])
  /-- A whole number becomes the threshold that it stands for. -/
  | plainCount (n : Int) : Respelled (.model (.threshold .whole false)) (.int n) (.object [("count", .int n)])
  /-- The value of a field is spelled in another way. -/
  | field {m : Model} {f : FieldName} {p : Place} {broken : Bool} {first last : Entries} {key : String} {j j' : Json}
      (asked : (f, p) ∈ m.fields) (own : f.Spells key) (inner : Respelled p j j') :
      Respelled (.model m) (objectOf broken (first ++ (key, j) :: last)) (objectOf broken (first ++ (key, j') :: last))
  /-- An item of a list is spelled in another way. -/
  | item {p : Place} {first last : List Json} {j j' : Json} (inner : Respelled p j j') :
      Respelled (.items p) (.list (first ++ j :: last)) (.list (first ++ j' :: last))
  /-- So is an item of a list in whose place a single value may stand. -/
  | listed {p : Place} {j j' : Json} (inner : Respelled (.items p) j j') : Respelled (.many p) j j'
  /-- So is a single model that stands for the list of it. -/
  | single {m : Model} {j j' : Json} (inner : Respelled (.model m) j j') : Respelled (.many (.model m)) j j'

/-! ## Entries -/

section

variable {first last : Entries} {f g : FieldName} {key key' : String} {j j' : Json}

lemma lookup?_middle (k : String) (first last : Entries) (key : String) (j : Json) :
    Json.lookup? k (first ++ (key, j) :: last) =
      (Json.lookup? k first).or (if key = k then some j else Json.lookup? k last) :=
  Json.lookup?_append k first _

lemma field?_of_not_spells (other : ¬ g.Spells key) :
    field? (first ++ (key, j) :: last) g = field? (first ++ last) g := by
  have keys : key ≠ g.wire ∧ key ≠ g.other := not_or.1 other
  unfold field?
  rw [lookup?_middle, lookup?_middle, if_neg keys.1, if_neg keys.2, ← Json.lookup?_append, ← Json.lookup?_append]

lemma field?_of_only (own : f.Spells key) (only : ∀ e ∈ first ++ last, ¬ f.Spells e.1) :
    field? (first ++ (key, j) :: last) f = some (key, j) := by
  have absent : ∀ k, f.Spells k → ∀ entries : Entries, (∀ e ∈ entries, e ∈ first ++ last) →
      Json.lookup? k entries = none := by
    intro k spelled entries part
    apply Json.lookup?_eq_none
    intro given
    obtain ⟨e, listed, rfl⟩ := List.mem_map.1 given
    exact only e (part e listed) spelled
  have none : ∀ k, f.Spells k → Json.lookup? k first = none ∧ Json.lookup? k last = none := fun k spelled =>
    ⟨absent k spelled first fun e => List.mem_append_left last, absent k spelled last fun e => List.mem_append_right first⟩
  obtain ⟨wireFirst, wireLast⟩ := none f.wire (Or.inl rfl)
  obtain ⟨otherFirst, otherLast⟩ := none f.other (Or.inr rfl)
  unfold field?
  rw [lookup?_middle, lookup?_middle, wireFirst, wireLast, otherFirst, otherLast]
  -- whichever spelling the key is, the other one is not there
  by_cases wire : key = f.wire
  · simp [wire]
  · rcases own with same | rfl
    · exact absurd same wire
    · simp [wire]

/-- Whatever the value of an entry is, fields are found under the same keys. -/
lemma key?_congr (g : FieldName) : (field? (first ++ (key, j') :: last) g).map Prod.fst =
    (field? (first ++ (key, j) :: last) g).map Prod.fst := by
  unfold field?
  rw [lookup?_middle, lookup?_middle, lookup?_middle, lookup?_middle]
  by_cases wire : key = g.wire
  · rw [if_pos wire, if_pos wire]
    cases Json.lookup? g.wire first <;> rfl
  · rw [if_neg wire, if_neg wire]
    cases (Json.lookup? g.wire first).or (Json.lookup? g.wire last) with
    | some own => rfl
    | none =>
      by_cases other : key = g.other
      · rw [if_pos other, if_pos other]
        cases Json.lookup? g.other first <;> rfl
      · rw [if_neg other, if_neg other]

end

/-- What a change of spelling makes of the value of a field. -/
def Changed (p : Place) (v v' : Option Json) : Prop :=
  v' = v ∨ ∃ j j', v = some j ∧ v' = some j' ∧ Respelled p j j'

/-- The value of a field is kept or spelled in another way. -/
lemma given?_changed {p : Place} {first last : Entries} {key : String} {j j' : Json} (inner : Respelled p j j')
    (f : FieldName) : Changed p (given? (first ++ (key, j) :: last) f) (given? (first ++ (key, j') :: last) f) := by
  have one : ∀ k, Changed p (Json.lookup? k (first ++ (key, j) :: last)) (Json.lookup? k (first ++ (key, j') :: last)) := by
    intro k
    rw [lookup?_middle, lookup?_middle]
    cases Json.lookup? k first with
    | some own => exact Or.inl rfl
    | none =>
      by_cases same : key = k
      · rw [if_pos same, if_pos same]
        exact Or.inr ⟨j, j', rfl, rfl, inner⟩
      · rw [if_neg same, if_neg same]
        exact Or.inl rfl
  rw [given?_eq, given?_eq]
  rcases one f.wire with same | ⟨_, _, found, found', changed⟩
  · rw [same]
    cases Json.lookup? f.wire (first ++ (key, j) :: last) with
    | some own => exact Or.inl rfl
    | none => exact one f.other
  · rw [found, found']
    exact Or.inr ⟨_, _, rfl, rfl, changed⟩

/-- Nothing is given beside the fields exactly when each key is one that a field is found under. -/
lemma noExtras_eq_ok_iff {entries : Entries} {fields : List FieldName} :
    noExtras entries fields = ok () ↔ ∀ e ∈ entries, ∃ f ∈ fields, (field? entries f).map Prod.fst = some e.1 := by
  unfold noExtras
  have used : ∀ key, key ∈ usedKeys entries fields ↔ ∃ f ∈ fields, (field? entries f).map Prod.fst = some key :=
    fun key => List.mem_filterMap
  constructor
  · intro h e listed
    refine (used e.1).1 ?_
    split at h
    · rename_i none
      have kept := List.filter_eq_nil_iff.1 none e.1 (List.mem_map_of_mem listed)
      simpa using kept
    · cases h
  · intro h
    have none : (entries.map Prod.fst).filter (fun key => !(usedKeys entries fields).contains key) = [] := by
      apply List.filter_eq_nil_iff.2
      intro key listed
      obtain ⟨e, own, rfl⟩ := List.mem_map.1 listed
      simpa using (used e.1).2 (h e own)
    rw [none]

/-- What a change of spelling makes of the entries of a model. -/
structure Alike (m : Model) (entries entries' : Entries) : Prop where
  given : ∀ f p, (f, p) ∈ m.fields → Changed p (given? entries f) (given? entries' f)
  extras : noExtras entries (m.fields.map Prod.fst) = ok () ↔ noExtras entries' (m.fields.map Prod.fst) = ok ()

section

variable {m : Model} {f : FieldName} {p : Place} {first last : Entries} {key key' : String} {j j' : Json}

/-- Whether anything is given beside the fields does not depend on the spelling of a field that is given once. -/
lemma noExtras_of_only (asked : (f, p) ∈ m.fields) (own : f.Spells key) (only : ∀ e ∈ first ++ last, ¬ f.Spells e.1) :
    noExtras (first ++ (key, j) :: last) (m.fields.map Prod.fst) = ok () ↔ ∀ e ∈ first ++ last,
      ∃ g ∈ m.fields.map Prod.fst, f.Apart g ∧ (field? (first ++ last) g).map Prod.fst = some e.1 := by
  rw [noExtras_eq_ok_iff]
  constructor
  · intro h e listed
    obtain ⟨g, asked', found⟩ := h e (by
      rcases List.mem_append.1 listed with listed | listed
      · exact List.mem_append_left _ listed
      · exact List.mem_append_right _ (List.mem_cons_of_mem _ listed))
    obtain ⟨⟨g, q⟩, other, rfl⟩ := List.mem_map.1 asked'
    -- a key beside the entry of the field is one of another field
    rcases Model.eq_or_apart asked other with same | apart
    · obtain ⟨rfl, rfl⟩ := Prod.ext_iff.1 same
      rw [field?_of_only own only] at found
      exact absurd (Option.some_inj.1 found ▸ own) (only e listed)
    · rw [field?_of_not_spells (apart.not_spells own)] at found
      exact ⟨g, asked', apart, found⟩
  · intro h e listed
    have cases : e = (key, j) ∨ e ∈ first ++ last := by
      rw [List.mem_append, List.mem_cons] at listed
      rw [List.mem_append]
      exact or_left_comm.1 listed
    rcases cases with rfl | listed
    · exact ⟨f, List.mem_map_of_mem asked, by rw [field?_of_only own only]; rfl⟩
    · obtain ⟨g, asked', apart, found⟩ := h e listed
      exact ⟨g, asked', by rw [field?_of_not_spells (apart.not_spells own), found]⟩

lemma alike_rename (asked : (f, p) ∈ m.fields) (own : f.Spells key) (own' : f.Spells key')
    (only : ∀ e ∈ first ++ last, ¬ f.Spells e.1) :
    Alike m (first ++ (key, j) :: last) (first ++ (key', j) :: last) where
  given g q other := by
    left
    unfold given?
    rcases Model.eq_or_apart asked other with same | apart
    · obtain ⟨rfl, rfl⟩ := Prod.ext_iff.1 same
      rw [field?_of_only own only, field?_of_only own' only]
      rfl
    · rw [field?_of_not_spells (apart.not_spells own), field?_of_not_spells (apart.not_spells own')]
  extras := (noExtras_of_only asked own only).trans (noExtras_of_only asked own' only).symm

lemma alike_field (asked : (f, p) ∈ m.fields) (own : f.Spells key) (inner : Respelled p j j') :
    Alike m (first ++ (key, j) :: last) (first ++ (key, j') :: last) where
  given g q other := by
    rcases Model.eq_or_apart asked other with same | apart
    · obtain ⟨rfl, rfl⟩ := Prod.ext_iff.1 same
      exact given?_changed inner f
    · left
      unfold given?
      rw [field?_of_not_spells (apart.not_spells own), field?_of_not_spells (apart.not_spells own)]
  extras := by
    have keys : (first ++ (key, j') :: last).map Prod.fst = (first ++ (key, j) :: last).map Prod.fst := by
      simp only [List.map_append, List.map_cons]
    have used : usedKeys (first ++ (key, j') :: last) (m.fields.map Prod.fst) =
        usedKeys (first ++ (key, j) :: last) (m.fields.map Prod.fst) :=
      congrArg (List.filterMap · _) (funext fun g => key?_congr g)
    unfold noExtras
    rw [keys, used]

end

/-- A model that is spelled in another way keeps what its fields hold, unless it is a whole number that stands for a
threshold. -/
lemma alike_of_respelled {m : Model} {j j' : Json} (h : Respelled (.model m) j j') :
    (∃ broken entries entries', j = objectOf broken entries ∧ j' = objectOf broken entries' ∧ Alike m entries entries') ∨
      m = .threshold .whole false ∧ ∃ n, j = .int n ∧ j' = .object [("count", .int n)] := by
  cases h with
  | rename asked own own' only => exact Or.inl ⟨_, _, _, rfl, rfl, alike_rename asked own own' only⟩
  | field asked own inner => exact Or.inl ⟨_, _, _, rfl, rfl, alike_field asked own inner⟩
  | plainCount n => exact Or.inr ⟨rfl, n, rfl, rfl⟩

/-! ## Readers -/

/-- Whether a reader gives the same for two spellings of what stands at a place. -/
def Respects {α : Type} (p : Place) (read : Reader α) : Prop :=
  ∀ j j', Respelled p j j' → (read j').value? = (read j).value?

lemma ne_null_of_respelled {p : Place} {j j' : Json} (h : Respelled p j j') : j ≠ .null ∧ j' ≠ .null := by
  have object : ∀ broken entries, objectOf broken entries ≠ .null := fun broken _ => by cases broken <;> exact nofun
  induction h with
  | rename => exact ⟨object _ _, object _ _⟩
  | wrap present => exact ⟨present, nofun⟩
  | plainCount => exact ⟨nofun, nofun⟩
  | field => exact ⟨object _ _, object _ _⟩
  | item => exact ⟨nofun, nofun⟩
  | listed _ ih => exact ih
  | single _ ih => exact ih

/-- A model is no list. -/
lemma wrapped_of_respelled {m : Model} {j j' : Json} (h : Respelled (.model m) j j') :
    wrapped j = .list [j] ∧ wrapped j' = .list [j'] := by
  have object : ∀ broken entries, wrapped (objectOf broken entries) = .list [objectOf broken entries] :=
    fun broken _ => by cases broken <;> rfl
  cases h with
  | rename => exact ⟨object _ _, object _ _⟩
  | field => exact ⟨object _ _, object _ _⟩
  | plainCount => exact ⟨rfl, rfl⟩

section

variable {α : Type} {p : Place} {read : Reader α} {entries entries' : Entries} {f : FieldName}

lemma respects_scalar (read : Reader α) : Respects .scalar read := by
  intro j j' h
  cases h

lemma Respects.optional (h : Respects p read) : Respects p (optional read) := by
  intro j j' step
  obtain ⟨present, present'⟩ := ne_null_of_respelled step
  rw [value?_optional present, value?_optional present', h j j' step]

lemma value?_readItems_congr {j j' : Json} (same : (read j').value? = (read j).value?) (first last : List Json) (i : Nat) :
    (readItems read i (first ++ j' :: last)).value? = (readItems read i (first ++ j :: last)).value? := by
  induction first generalizing i with
  | nil =>
    rw [List.nil_append, List.nil_append, readItems, readItems]
    simp only [value?_seq, value?_map, value?_under, same]
  | cons k first ih =>
    rw [List.cons_append, List.cons_append, readItems, readItems]
    simp only [value?_seq, value?_map, ih]

lemma Respects.readList (h : Respects p read) : Respects (.items p) (readList read) := by
  intro j j' step
  cases step with
  | item inner => exact value?_readItems_congr (h _ _ inner) _ _ 0

lemma Respects.readMany (h : Respects p read) : Respects (.many p) (readMany read) := by
  intro j j' step
  cases step with
  | wrap present single =>
    have alone : wrapped j = .list [j] := by
      cases j with
      | null => exact absurd rfl present
      | list items => exact absurd rfl (single items)
      | _ => rfl
    unfold Payload.readMany
    rw [alone]
    rfl
  | listed inner =>
    cases inner with
    | item inner => exact value?_readItems_congr (h _ _ inner) _ _ 0
  | single inner =>
    obtain ⟨alone, alone'⟩ := wrapped_of_respelled inner
    unfold Payload.readMany
    rw [alone, alone']
    exact value?_readItems_congr (h _ _ inner) [] [] 0

/-! ### Fields -/

variable {m : Model}

namespace Alike

lemma required (h : Alike m entries entries') (f : FieldName) (reads : Respects p read) (asked : (f, p) ∈ m.fields) :
    (required entries' f read).value? = (required entries f read).value? := by
  rw [value?_required, value?_required]
  rcases h.given f p asked with same | ⟨j, j', given, given', step⟩
  · rw [same]
  · rw [given, given']
    exact reads j j' step

lemma defaulted (h : Alike m entries entries') (f : FieldName) (absent : α) (reads : Respects p read)
    (asked : (f, p) ∈ m.fields) : (defaulted entries' f absent read).value? = (defaulted entries f absent read).value? := by
  rw [value?_defaulted, value?_defaulted]
  rcases h.given f p asked with same | ⟨j, j', given, given', step⟩
  · rw [same]
  · rw [given, given']
    exact reads j j' step

lemma possible (h : Alike m entries entries') (f : FieldName) (reads : Respects p read) (asked : (f, p) ∈ m.fields) :
    (possible entries' f read).value? = (possible entries f read).value? :=
  h.defaulted f none reads.optional asked

end Alike

lemma value?_all_congr {β : Type} {g g' : β → Checked α} {list : List β}
    (h : ∀ b ∈ list, (g' b).value? = (g b).value?) : (all g' list).value? = (all g list).value? := by
  induction list with
  | nil => rfl
  | cons b rest ih =>
    rw [all, all]
    simp only [value?_seq, value?_map, h b List.mem_cons_self, ih fun b later => h b (List.mem_cons_of_mem _ later)]

/-! ### Models -/

/-- A model is read strictly the same from entries that are alike. -/
lemma value?_readStrict_congr {m : Model} {title : String} {names : List FieldName} {read : Entries → Checked α}
    (own : m.fields.map Prod.fst = names) (alike : Alike m entries entries')
    (same : (read entries').value? = (read entries).value?) (broken : Bool) :
    (readStrict title names read (objectOf broken entries')).value? =
      (readStrict title names read (objectOf broken entries)).value? := by
  cases broken with
  | true => rfl
  | false =>
    have extras : (noExtras entries' names).value? = (noExtras entries names).value? := by
      refine Option.ext fun u => ?_
      rw [value?_eq_some_iff, value?_eq_some_iff, ← own]
      exact alike.extras.symm
    show ((fun a _ => a) <$> read entries' <*> noExtras entries' names).value? =
      ((fun a _ => a) <$> read entries <*> noExtras entries names).value?
    rw [value?_seq, value?_seq, value?_map, value?_map, same, extras]

lemma respects_readStrict {m : Model} {title : String} {names : List FieldName} {read : Entries → Checked α}
    (own : m.fields.map Prod.fst = names) (noCount : m ≠ .threshold .whole false)
    (same : ∀ entries entries', Alike m entries entries' → (read entries').value? = (read entries).value?) :
    Respects (.model m) (readStrict title names read) := by
  intro j j' step
  rcases alike_of_respelled step with ⟨broken, entries, entries', rfl, rfl, alike⟩ | ⟨count, -⟩
  · exact value?_readStrict_congr own alike (same _ _ alike) broken
  · exact absurd count noCount

end

lemma respects_readChangeTagFilter : Respects (.model .changeTagFilter) readChangeTagFilter := by
  refine respects_readStrict rfl nofun fun entries entries' alike => ?_
  have tag := alike.required Name.changeTagId (respects_scalar readInteger) (by simp [Model.fields])
  have inNamespace := alike.possible Name.inNamespace (respects_scalar readInteger) (by simp [Model.fields])
  simp only [value?_seq, value?_map, tag, inNamespace]

lemma respects_readLogFilter : Respects (.model .logFilter) readLogFilter := by
  have parts : Respects (.model .logFilter) (readStrict "LogFilter" [Name.logType, Name.logAction] fun entries =>
      Prod.mk <$> possible entries Name.logType readText <*> possible entries Name.logAction readText) := by
    refine respects_readStrict rfl nofun fun entries entries' alike => ?_
    have type := alike.possible Name.logType (respects_scalar readText) (by simp [Model.fields])
    have action := alike.possible Name.logAction (respects_scalar readText) (by simp [Model.fields])
    simp only [value?_seq, value?_map, type, action]
  intro j j' step
  unfold readLogFilter
  rw [value?_andThen, value?_andThen, parts j j' step]

lemma respects_readOrderBy : Respects (.model .orderBy) readOrderBy := by
  refine respects_readStrict rfl nofun fun entries entries' alike => ?_
  have id := alike.required Name.columnId (respects_scalar readText) (by simp [Model.fields])
  have direction := alike.defaulted Name.direction false
    (respects_scalar (readName ["asc", "desc"] descendingOfName?)) (by simp [Model.fields])
  simp only [value?_seq, value?_map, id, direction]

lemma respects_readRung : Respects (.model .rung) readRung := by
  refine respects_readStrict rfl nofun fun entries entries' alike => ?_
  have id := alike.required Name.id (respects_scalar readText) (by simp [Model.fields])
  have label := alike.required Name.label (respects_scalar readText) (by simp [Model.fields])
  have contributions := alike.required Name.requiredContributions (respects_scalar readNatural) (by simp [Model.fields])
  have activeDays := alike.required Name.requiredActiveDays (respects_scalar readNatural) (by simp [Model.fields])
  simp only [value?_seq, value?_map, id, label, contributions, activeDays]

lemma respects_readColumn : Respects (.model .column) readColumn := by
  have integers := (respects_scalar readInteger).readMany
  intro j j' step
  unfold readColumn
  rw [value?_andThen, value?_andThen]
  refine congrArg (Option.bind · fun c : Checked Column => c.value?) ?_
  refine respects_readStrict (m := .column) rfl nofun (fun entries entries' alike => ?_) j j' step
  have type := alike.required Name.type (respects_scalar readColumnType) (by simp [Model.fields])
  have id := alike.possible Name.columnId (respects_scalar readText) (by simp [Model.fields])
  have inNamespace := alike.possible Name.inNamespace integers (by simp [Model.fields])
  have changeTag := alike.possible Name.changeTag respects_readChangeTagFilter.readMany (by simp [Model.fields])
  have logFilter := alike.possible Name.logFilter respects_readLogFilter.readMany (by simp [Model.fields])
  have milestones := alike.possible Name.milestones integers (by simp [Model.fields])
  have rule := alike.possible Name.filterByRule (respects_scalar readRowRule) (by simp [Model.fields])
  simp only [readParameters, value?_seq, value?_map, type, id, inNamespace, changeTag, logFilter, milestones, rule]

/-! ### Conditions -/

lemma value?_readThreshold_congr {form : ScopeForm} {inPeriod : Bool} {entries entries' : Entries}
    (alike : Alike (.threshold form inPeriod) entries entries') (counter : Counter) (comparison : Comparison)
    (broken : Bool) :
    (readThreshold form counter inPeriod comparison (objectOf broken entries')).value? =
      (readThreshold form counter inPeriod comparison (objectOf broken entries)).value? := by
  have scopes : (readScopes form entries').value? = (readScopes form entries).value? := by
    cases form with
    | whole => rfl
    | logFilters => rfl
    | namespaces =>
      have ids := alike.required Name.inNamespace (respects_scalar readInteger).readMany (by simp [Model.fields, scopePlaces])
      simp only [readScopes, value?_map, ids]
    | changeTags =>
      have filters := alike.required Name.changeTag respects_readChangeTagFilter.readMany
        (by simp [Model.fields, scopePlaces])
      simp only [readScopes, value?_map, filters]
  have period : (readPeriod inPeriod entries').value? = (readPeriod inPeriod entries).value? := by
    cases inPeriod with
    | false => rfl
    | true =>
      have days := alike.required Name.period (respects_scalar readNatural) (by simp [Model.fields])
      simp only [readPeriod, if_true, value?_map, days]
  have count := alike.required Name.count (respects_scalar readInteger) (by simp [Model.fields])
  have epoch := alike.defaulted Name.epoch none (respects_scalar readEpoch) (by simp [Model.fields])
  refine value?_readStrict_congr ?_ alike ?_ broken
  · cases form <;> cases inPeriod <;> rfl
  · simp only [value?_seq, value?_map, scopes, count, period, epoch]

lemma respects_readCondition (k : Criterion) : Respects (criterionPlace k) (readCondition k) := by
  have map : ∀ {α : Type} {p : Place} {read : Reader α} (f : α → Condition), Respects p read →
      Respects p fun j => f <$> read j := by
    intro α p read f reads j j' step
    rw [value?_map, value?_map, reads j j' step]
  cases k with
  | registrationStatus => exact map _ (respects_scalar _).readMany
  | registrationAge comparison => exact respects_scalar _
  | inGroups => exact map _ (respects_scalar readText).readMany
  | notInGroups => exact map _ (respects_scalar readText).readMany
  | hasTemplates => exact map _ (respects_scalar readText).readMany
  | hasNoTemplates => exact map _ (respects_scalar readText).readMany
  | milestone counter => exact map _ (respects_scalar readInteger).readList
  | level changed => exact map _ (respects_scalar readText).readMany
  | threshold form counter inPeriod comparison =>
    intro j j' step
    rcases alike_of_respelled step with ⟨broken, entries, entries', rfl, rfl, alike⟩ | ⟨count, n, rfl, rfl⟩
    -- an object does not stand for another threshold than its own
    · have object : ∀ entries, readCondition (.threshold form counter inPeriod comparison) (objectOf broken entries) =
          Condition.threshold <$> readThreshold form counter inPeriod comparison (objectOf broken entries) :=
        fun entries => by cases form <;> cases inPeriod <;> cases broken <;> rfl
      rw [object, object, value?_map, value?_map, value?_readThreshold_congr alike]
    · cases count
      rfl

lemma respects_readRequirement : Respects (.model .requirement) readRequirement := by
  refine respects_readStrict (List.map_map ..) nofun fun entries entries' alike => ?_
  rw [value?_map, value?_map]
  refine congrArg (Option.map (List.filterMap id)) (value?_all_congr fun k offered => ?_)
  exact alike.possible k.field (respects_readCondition k) (List.mem_map.2 ⟨k, offered, rfl⟩)

/-! ### Requests -/

lemma value?_readWindow_congr {entries entries' : Entries} (alike : Alike .request entries entries') :
    (readWindow entries').value? = (readWindow entries).value? := by
  have start := alike.possible Name.startDate (respects_scalar readDay) (by simp [Model.fields])
  -- the last day is checked against the first one
  have finish : (readFinish entries' (possible entries' Name.startDate readDay)).value? =
      (readFinish entries (possible entries Name.startDate readDay)).value? := by
    unfold readFinish
    rw [start]
    exact alike.required Name.endDate (respects_scalar _) (by simp [Model.fields])
  unfold readWindow
  simp only [value?_andThen, value?_seq, value?_map, start, finish]

lemma respects_readRequest : Respects (.model .request) readRequest := by
  refine respects_readStrict rfl nofun fun entries entries' alike => ?_
  have wikiId := alike.required Name.wikiId (respects_scalar readText) (by simp [Model.fields])
  have columns := alike.defaulted Name.columns [] respects_readColumn.readList (by simp [Model.fields])
  have requirements := alike.possible Name.requirements respects_readRequirement (by simp [Model.fields])
  have orderBy := alike.defaulted Name.orderBy [] respects_readOrderBy.readList (by simp [Model.fields])
  have itemCount := alike.possible Name.itemCount (respects_scalar readNatural) (by simp [Model.fields])
  have window := value?_readWindow_congr alike
  have skipBots := alike.defaulted Name.skipBots false (respects_scalar readBool) (by simp [Model.fields])
  have ladder := alike.possible Name.serviceAwardLevels respects_readRung.readList (by simp [Model.fields])
  simp only [value?_seq, value?_map, wikiId, columns, requirements, orderBy, itemCount, window, skipBots, ladder]

/-- However often the spelling of a payload is changed, and wherever in it, the same request is read from it, or none. -/
theorem readRequest_iff_of_respelled {json json' : Json}
    (h : Relation.ReflTransGen (Respelled (.model .request)) json json') (r : Request) :
    readRequest json = ok r ↔ readRequest json' = ok r := by
  have same : (readRequest json').value? = (readRequest json).value? := by
    induction h with
    | refl => rfl
    | tail _ step ih => exact (respects_readRequest _ _ step).trans ih
  rw [← value?_eq_some_iff, ← value?_eq_some_iff, same]

end Payload

/-- A request for the edits of some actors in some namespaces; two keys and two values are left open. -/
def Json.ofNamespaceEdits (wikiId : String) (namespaces : Json) (bound : String) (edits : Json) : Json :=
  .object [(wikiId, .text "w"), ("columns", .list [.object [("type", .text "editsInNamespaceInPeriod"),
    ("namespace", namespaces)]]), ("requirements", .object [(bound, edits)]), ("endDate", .text "2023-12-31")]

namespace Payload

open Relation (ReflTransGen)

/-- Two keys are changed, a namespace becomes a list, and a number becomes a threshold whose key is changed too. -/
theorem readRequest_of_namespaceEdits :
    ReflTransGen (Respelled (.model .request)) (.ofNamespaceEdits "wikiId" (.int 4) "totalEditsAtLeast" (.int 3))
      (.ofNamespaceEdits "wiki_id" (.list [.int 4]) "total_edits_at_least" (.object [("edits", .int 3)])) ∧
    ∃ r, readRequest (.ofNamespaceEdits "wikiId" (.int 4) "totalEditsAtLeast" (.int 3)) = .ok r ∧
      readRequest (.ofNamespaceEdits "wiki_id" (.list [.int 4]) "total_edits_at_least"
        (.object [("edits", .int 3)])) = .ok r := by
  have wiki : ∀ namespaces bound edits, Respelled (.model .request) (.ofNamespaceEdits "wikiId" namespaces bound edits)
      (.ofNamespaceEdits "wiki_id" namespaces bound edits) := fun namespaces bound edits =>
    @Respelled.rename .request Name.wikiId .scalar false [] _ "wikiId" "wiki_id" (.text "w") (by simp [Model.fields])
      (Or.inl rfl) (Or.inr rfl) (by simp only [List.nil_append, List.forall_mem_cons]; decide)
  have columns : ∀ wikiId bound edits, Respelled (.model .request) (.ofNamespaceEdits wikiId (.int 4) bound edits)
      (.ofNamespaceEdits wikiId (.list [.int 4]) bound edits) := fun wikiId bound edits =>
    @Respelled.field .request Name.columns (.items (.model .column)) false [(wikiId, .text "w")] _ "columns" _ _
      (by simp [Model.fields]) (Or.inl rfl) (@Respelled.item (.model .column) [] [] _ _
        (@Respelled.field .column Name.inNamespace (.many .scalar) false [("type", .text "editsInNamespaceInPeriod")] []
          "namespace" _ _ (by simp [Model.fields]) (Or.inl rfl) (.wrap nofun nofun)))
  have requirements : ∀ {bound bound' : String} {edits edits' : Json} (wikiId : String) (namespaces : Json),
      Respelled (.model .requirement) (.object [(bound, edits)]) (.object [(bound', edits')]) →
        Respelled (.model .request) (.ofNamespaceEdits wikiId namespaces bound edits)
          (.ofNamespaceEdits wikiId namespaces bound' edits') := fun wikiId namespaces inner =>
    @Respelled.field .request Name.requirements (.model .requirement) false [(wikiId, .text "w"), _] _ "requirements" _ _
      (by simp [Model.fields]) (Or.inl rfl) inner
  have asked : ((Criterion.threshold .whole .edits false .atLeast).field, Place.model (.threshold .whole false)) ∈
      Model.requirement.fields := List.mem_map.2 ⟨_, by decide, rfl⟩
  have bound := @Respelled.rename .requirement _ _ false [] [] "totalEditsAtLeast" "total_edits_at_least" (.int 3) asked
    (Or.inl rfl) (Or.inr rfl) (by simp)
  have plain := @Respelled.field .requirement _ _ false [] [] "total_edits_at_least" _ _ asked (Or.inr rfl) (.plainCount 3)
  have count := @Respelled.field .requirement _ _ false [] [] "total_edits_at_least" _ _ asked (Or.inr rfl)
    (@Respelled.rename (.threshold .whole false) Name.count .scalar false [] [] "count" "edits" (.int 3)
      (by simp [Model.fields]) (Or.inl rfl) (Or.inr rfl) (by simp))
  have steps : ReflTransGen (Respelled (.model .request))
      (.ofNamespaceEdits "wikiId" (.int 4) "totalEditsAtLeast" (.int 3))
      (.ofNamespaceEdits "wiki_id" (.list [.int 4]) "total_edits_at_least" (.object [("edits", .int 3)])) :=
    .head (wiki _ _ _) (.head (columns _ _ _) (.head (requirements _ _ bound) (.head (requirements _ _ plain)
      (.single (requirements _ _ count)))))
  obtain ⟨r, parsed⟩ : ∃ r, readRequest (.ofNamespaceEdits "wikiId" (.int 4) "totalEditsAtLeast" (.int 3)) = .ok r :=
    ⟨_, rfl⟩
  exact ⟨steps, r, parsed, (readRequest_iff_of_respelled steps r).1 parsed⟩

end Payload

end ActivityReport
