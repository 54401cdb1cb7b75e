import ActivityReport.Proofs.Calendar.Iso
import ActivityReport.Proofs.Payload.Column
import ActivityReport.Proofs.Payload.Entries

/-!
# Payloads written and read

The wire form is a normal form of payloads. What a reader can give is on offer: the columns and the conditions are those
of the catalogues, and a requirement lists its conditions in the order of the catalogue. What is on offer is written so
that it is read as itself. So whatever was read from a payload, in one of its many spellings, is read again from its wire
form (`Payload.read_of_write`).
-/

namespace ActivityReport

namespace Checked

variable {α β : Type} {f : α → Checked β} {list : List α}

lemma seq_eq_ok {f : Checked (α → β)} {x : Checked α} {g : α → β} {a : α} (function : f = ok g) (argument : x = ok a) :
    f <*> x = ok (g a) := by
  rw [function, argument]
  rfl

lemma map_eq_ok {x : Checked α} {g : α → β} {a : α} (argument : x = ok a) : g <$> x = ok (g a) := by
  rw [argument]
  rfl

/-- Results side by side are those of the items, when each has one. -/
lemma all_eq_ok {value : α → β} (h : ∀ a ∈ list, f a = ok (value a)) : all f list = ok (list.map value) := by
  induction list with
  | nil => rfl
  | cons a rest ih =>
    have first : List.cons <$> f a = ok (List.cons (value a)) := by
      rw [h a List.mem_cons_self]
      rfl
    exact seq_eq_ok first (ih fun a later => h a (List.mem_cons_of_mem _ later))

/-- Results side by side are those of the items. -/
lemma map_value?_of_all {results : List β} (h : all f list = ok results) :
    list.map (fun a => (f a).value?) = results.map some := by
  induction list generalizing results with
  | nil =>
    cases h
    rfl
  | cons a rest ih =>
    obtain ⟨g, others, first, restOk, rfl⟩ := seq_eq_ok_iff.1 h
    obtain ⟨b, own, rfl⟩ := map_eq_ok_iff.1 first
    rw [List.map_cons, List.map_cons, ih restOk, own]
    rfl

end Checked

/-! ## What is on offer -/

namespace Requirement

/-- The condition of a requirement on a criterion. -/
def condition? (r : Requirement) (k : Criterion) : Option Condition := r.find? (·.criterion = k)

/-- Whether a requirement has conditions on criteria of the catalogue only, one on each at most, in its order. -/
def IsOffered (r : Requirement) : Prop := Criterion.all.filterMap r.condition? = r

lemma criterion_of_condition? {r : Requirement} {k : Criterion} {c : Condition} (h : r.condition? k = some c) :
    c.criterion = k := by
  simpa using List.find?_some h

/-- The conditions of a requirement on offer are on criteria of the catalogue. -/
lemma IsOffered.criterion_mem {r : Requirement} (h : r.IsOffered) {c : Condition} (listed : c ∈ r) :
    c.criterion ∈ Criterion.all := by
  rw [IsOffered] at h
  rw [← h] at listed
  obtain ⟨k, offered, found⟩ := List.mem_filterMap.1 listed
  rw [criterion_of_condition? found]
  exact offered

/-- What is made from the catalogue, one condition at most for each criterion, is on offer. -/
lemma isOffered_filterMap {value : Criterion → Option Condition}
    (own : ∀ k ∈ Criterion.all, ∀ c, value k = some c → c.criterion = k) :
    IsOffered (Criterion.all.filterMap value) := by
  refine List.filterMap_congr fun k offered => ?_
  unfold condition?
  generalize Criterion.all = list at own offered ⊢
  induction list with
  | nil => cases offered
  | cons first rest ih =>
    have own' : ∀ k ∈ rest, ∀ c, value k = some c → c.criterion = k :=
      fun k later => own k (List.mem_cons_of_mem _ later)
    by_cases here : first = k
    · subst here
      cases found : value first with
      | some c => simp [found, own first List.mem_cons_self c found]
      | none =>
        -- no other criterion gives a condition on this one
        rw [List.filterMap_cons_none found, List.find?_eq_none]
        intro c listed same
        obtain ⟨k, later, given⟩ := List.mem_filterMap.1 listed
        obtain rfl : k = first := (own' k later c given).symm.trans (of_decide_eq_true same)
        rw [found] at given
        cases given
    · have later : k ∈ rest := (List.mem_cons.1 offered).resolve_left (Ne.symm here)
      rw [← ih own' later]
      cases found : value first with
      | some c =>
        have other : c.criterion ≠ k := fun same => here ((own first List.mem_cons_self c found).symm.trans same)
        simp [found, other]
      | none => rw [List.filterMap_cons_none found]

end Requirement

/-- Whether the columns and the requirements of a request are on offer. -/
structure Request.IsOffered (r : Request) : Prop where
  columns : ∀ c ∈ r.columns, c.type ∈ ColumnType.all
  requirements : ∀ q ∈ r.requirements, q.IsOffered

/-- Whether the requirements of all groups are on offer. -/
def Pyramid.IsOffered (p : Pyramid) : Prop := ∀ g ∈ p.groups, g.requirements.IsOffered

namespace Payload

open Checked

variable {α : Type}

/-! ## What is read is on offer -/

lemma isOffered_of_readRequirement {json : Json} {r : Requirement} (h : readRequirement json = ok r) : r.IsOffered := by
  obtain ⟨entries, h⟩ := exists_of_readStrict h
  obtain ⟨results, readAll, rfl⟩ := map_eq_ok_iff.1 h
  have values := map_value?_of_all readAll
  have made : results.filterMap id = Criterion.all.filterMap fun k =>
      ((possible entries k.field (readCondition k)).value?).join := by
    have same := congrArg (List.filterMap Option.join) values
    rw [List.filterMap_map, List.filterMap_map] at same
    exact same.symm
  rw [made]
  refine Requirement.isOffered_filterMap fun k offered c given => ?_
  have given := value?_eq_some_iff.1 (Option.join_eq_some_iff.1 given)
  obtain ⟨json, own⟩ := exists_of_possible given
  exact criterion_of_readCondition offered own

lemma isOffered_of_readRequest {json : Json} {r : Request} (h : readRequest json = ok r) : r.IsOffered where
  columns := type_mem_all_of_readRequest h
  requirements q given := by
    obtain ⟨entries, -, read⟩ := exists_of_readRequest h
    rw [Option.mem_def.1 given] at read
    obtain ⟨json, own⟩ := exists_of_possible read
    exact isOffered_of_readRequirement own

lemma isOffered_of_readPyramid {json : Json} {p : Pyramid} (h : readPyramid json = ok p) : p.IsOffered := by
  intro group listed
  obtain ⟨entries, h₀⟩ := exists_of_readObject h
  obtain ⟨g₁, groups, h₁, readGroups, rfl⟩ := seq_eq_ok_iff.1 h₀
  obtain ⟨g₂, name, h₂, -, rfl⟩ := seq_eq_ok_iff.1 h₁
  obtain ⟨id, -, rfl⟩ := map_eq_ok_iff.1 h₂
  obtain ⟨json, readGroups⟩ := exists_of_required readGroups
  obtain ⟨json, h⟩ := exists_of_readList readGroups listed
  obtain ⟨entries, h₀⟩ := exists_of_readObject h
  obtain ⟨g₁, requirements, h₁, readRequirements, rfl⟩ := seq_eq_ok_iff.1 h₀
  obtain ⟨name, -, rfl⟩ := map_eq_ok_iff.1 h₁
  obtain ⟨json, own⟩ := exists_of_required readRequirements
  exact isOffered_of_readRequirement own

/-! ## What is on offer is read as it was written -/

lemma readText_text (s : String) : readText (.text s) = ok s := rfl

lemma readInteger_int (n : Int) : readInteger (.int n) = ok n := rfl

lemma readBool_bool (b : Bool) : readBool (.bool b) = ok b := rfl

lemma readNatural_writeNatural (n : Nat) : readNatural (writeNatural n) = ok n :=
  show (if (n : Int) < 0 then problem .negative else ok (n : Int).toNat) = ok n from
    if_neg (Int.not_lt.2 (Int.natCast_nonneg n))

lemma readItems_map {read : Reader α} {write : α → Json} {list : List α} (i : Nat)
    (reads : ∀ a ∈ list, read (write a) = ok a) : readItems read i (list.map write) = ok list := by
  induction list generalizing i with
  | nil => rfl
  | cons a rest ih =>
    have first : List.cons <$> (read (write a)).under (toString i) = ok (List.cons a) := by
      rw [reads a List.mem_cons_self]
      rfl
    exact seq_eq_ok first (ih (i + 1) fun a later => reads a (List.mem_cons_of_mem _ later))

lemma readList_writeList {read : Reader α} {write : α → Json} {list : List α}
    (reads : ∀ a ∈ list, read (write a) = ok a) : readList read (writeList write list) = ok list :=
  readItems_map 0 reads

lemma readMany_writeList {read : Reader α} {write : α → Json} {list : List α}
    (reads : ∀ a ∈ list, read (write a) = ok a) : readMany read (writeList write list) = ok list :=
  readItems_map 0 reads

lemma readMany_writeIntegers (list : List Int) : readMany readInteger (writeIntegers list) = ok list :=
  readMany_writeList fun _ _ => rfl

lemma readMany_writeTexts (list : List String) : readMany readText (writeTexts list) = ok list :=
  readMany_writeList fun _ _ => rfl

lemma readEpoch_writeEpoch (e : Epoch) : readEpoch (writeEpoch e) = ok (some e) := by
  cases e with
  | offset n => rfl
  | startOfPeriod => rfl

lemma readChangeTagFilter_writeChangeTagFilter (f : ChangeTagFilter) :
    readChangeTagFilter (writeChangeTagFilter f) = ok f := by
  refine readStrict_of_written [(Name.changeTagId, some (.int f.tag)),
    (Name.inNamespace, f.inNamespace.map .int)] ?_ rfl (by decide) fun entries holds => seq_eq_ok (map_eq_ok ?_) ?_
  · simp [writeChangeTagFilter, writeFields, presentEntry_eq]
  · exact holds.required (readInteger_int f.tag) (by simp)
  · exact holds.possible Json.int (fun n _ => ⟨nofun, readInteger_int n⟩) (by simp)

lemma readLogFilter_writeLogFilter (f : LogFilter) : readLogFilter (writeLogFilter f) = ok f := by
  have parts : readStrict "LogFilter" [Name.logType, Name.logAction] (fun entries =>
      Prod.mk <$> possible entries Name.logType readText <*> possible entries Name.logAction readText)
        (writeLogFilter f) = ok (f.type?, f.action?) := by
    refine readStrict_of_written [(Name.logType, f.type?.map .text), (Name.logAction, f.action?.map .text)]
      ?_ rfl (by decide) fun entries holds => seq_eq_ok (map_eq_ok ?_) ?_
    · simp [writeLogFilter, writeFields, presentEntry_eq]
    · exact holds.possible Json.text (fun s _ => ⟨nofun, readText_text s⟩) (by simp)
    · exact holds.possible Json.text (fun s _ => ⟨nofun, readText_text s⟩) (by simp)
  refine andThen_eq_ok_iff.2 ⟨_, parts, ?_⟩
  simp only [f.ofParts?_parts]

/-! ### Conditions -/

/-- The fields in which scopes are listed. -/
def scopeValues : Scopes → List (FieldName × Option Json)
  | .whole => []
  | .namespaces ids => [(Name.inNamespace, some (writeIntegers ids))]
  | .changeTags filters => [(Name.changeTag, some (writeList writeChangeTagFilter filters))]
  | .logFilters filters => [(Name.logFilter, some (writeList writeLogFilter filters))]

/-- The fields of a threshold. -/
def thresholdValues (t : Threshold) : List (FieldName × Option Json) :=
  scopeValues t.scopes ++ [(Name.count, some (.int t.count))] ++
    (t.period.elim [] fun days => [(Name.period, some (writeNatural days))]) ++ [(Name.epoch, t.epoch.map writeEpoch)]

lemma readThreshold_writeThreshold {t : Threshold} (noLogs : t.scopes.form ≠ .logFilters) :
    readThreshold t.scopes.form t.counter t.period.isSome t.comparison (writeThreshold t) = ok t := by
  obtain ⟨counter, comparison, scopes, count, period, epoch⟩ := t
  refine readStrict_of_written (thresholdValues ⟨counter, comparison, scopes, count, period, epoch⟩) ?_ ?_ ?_
    fun entries holds => seq_eq_ok (seq_eq_ok (seq_eq_ok (map_eq_ok ?_) ?_) ?_) ?_
  · cases scopes <;> cases period <;> cases epoch <;> rfl
  · cases scopes with
    | logFilters => exact absurd rfl noLogs
    | _ => cases period <;> rfl
  · exact apart_thresholdFields scopes.form period.isSome
  · cases scopes with
    | whole => rfl
    | namespaces ids => exact map_eq_ok (holds.required (readMany_writeIntegers ids) (by simp [thresholdValues, scopeValues]))
    | changeTags filters =>
      have read : readMany readChangeTagFilter (writeList writeChangeTagFilter filters) = ok filters :=
        readMany_writeList fun f _ => readChangeTagFilter_writeChangeTagFilter f
      exact map_eq_ok (holds.required read (by simp [thresholdValues, scopeValues]))
    | logFilters => exact absurd rfl noLogs
  · exact holds.required (readInteger_int count) (by simp [thresholdValues])
  · cases period with
    | none => rfl
    | some days => exact map_eq_ok (holds.required (readNatural_writeNatural days) (by simp [thresholdValues]))
  · cases epoch with
    | none => exact holds.defaulted_of_absent (by simp [thresholdValues])
    | some e => exact holds.defaulted (readEpoch_writeEpoch e) (by simp [thresholdValues])

/-- A condition is read as it was written, unless it counts filters of log events, which no threshold on offer does. -/
lemma readCondition_writeCondition {c : Condition} (noLogs : ∀ t, c = .threshold t → t.scopes.form ≠ .logFilters) :
    readCondition c.criterion (writeCondition c) = ok c := by
  cases c with
  | registrationStatus statuses =>
    refine map_eq_ok (readMany_writeList fun s _ => ?_)
    cases s <;> rfl
  | registrationAge comparison days => exact map_eq_ok (readInteger_int days)
  | inGroups names => exact map_eq_ok (readMany_writeTexts names)
  | notInGroups names => exact map_eq_ok (readMany_writeTexts names)
  | hasTemplates names => exact map_eq_ok (readMany_writeTexts names)
  | hasNoTemplates names => exact map_eq_ok (readMany_writeTexts names)
  | threshold t =>
    have own := map_eq_ok (g := Condition.threshold) (readThreshold_writeThreshold (noLogs t rfl))
    show readCondition (.threshold t.scopes.form t.counter t.period.isSome t.comparison) (writeThreshold t) = _
    -- what is written is no whole number that stands for a threshold
    generalize t.scopes.form = form at own ⊢
    generalize t.period.isSome = inPeriod at own ⊢
    cases form <;> cases inPeriod <;> exact own
  | milestone counter milestones => exact map_eq_ok (readList_writeList fun n _ => readInteger_int n)
  | level changed ids => exact map_eq_ok (readMany_writeTexts ids)

lemma writeCondition_ne_null (c : Condition) : writeCondition c ≠ .null := by
  cases c <;> exact nofun

/-- Conditions are written in the fields of their criteria. -/
lemma flatMap_entry_eq {value : Criterion → Option Condition} {list : List Criterion}
    (own : ∀ k, ∀ c ∈ value k, c.criterion = k) :
    (list.filterMap value).flatMap (fun c => entry c.criterion.field (writeCondition c)) =
      writeFields (list.map fun k => (k.field, (value k).map writeCondition)) := by
  induction list with
  | nil => rfl
  | cons k rest ih =>
    rw [List.map_cons, writeFields_cons, ← ih]
    cases given : value k with
    | none => rw [List.filterMap_cons_none given, Option.map_none, Option.elim_none, List.nil_append]
    | some c => rw [List.filterMap_cons_some given, List.flatMap_cons, own k c given, Option.map_some, Option.elim_some]

lemma readRequirement_writeRequirement {r : Requirement} (offered : r.IsOffered) :
    readRequirement (writeRequirement r) = ok r := by
  have conditions : ∀ k, ∀ c ∈ r.condition? k, c.criterion = k := fun k c found =>
    Requirement.criterion_of_condition? found
  have written : r.flatMap (fun c => entry c.criterion.field (writeCondition c)) = writeFields
      (Criterion.all.map fun k => (k.field, (r.condition? k).map writeCondition)) := by
    rw [← flatMap_entry_eq conditions]
    exact congrArg (List.flatMap fun c => entry c.criterion.field (writeCondition c)) offered.symm
  refine readStrict_of_written _ (congrArg Json.object written) ?_ apart_criteria fun entries holds => ?_
  · rw [List.map_map]
    rfl
  · have all : Checked.all (fun c => possible entries c.field (readCondition c)) Criterion.all =
        ok (Criterion.all.map r.condition?) := by
      refine all_eq_ok fun k listed => holds.possible writeCondition (fun c found => ?_) ?_
      · obtain rfl := conditions k c found
        exact ⟨writeCondition_ne_null c, readCondition_writeCondition fun t same => by
          subst same
          exact Criterion.form_ne_logFilters listed⟩
      · exact List.mem_map.2 ⟨k, listed, rfl⟩
    rw [all, map_eq, Checked.map, List.filterMap_map]
    exact congrArg ok offered

/-! ### Columns -/

/-- The parameters that are given with a parameter of a column. -/
def GivenParameters.ofParameter : Parameter → GivenParameters
  | .scopes .whole => ⟨none, none, none, none⟩
  | .scopes (.namespaces ids) => ⟨some ids, none, none, none⟩
  | .scopes (.changeTags filters) => ⟨none, some filters, none, none⟩
  | .scopes (.logFilters filters) => ⟨none, none, some filters, none⟩
  | .milestones list => ⟨none, none, none, list⟩

/-- A parameter that fits a type breaks no rule of it. -/
lemma GivenParameters.fault?_ofParameter {p : Parameter} {type : ColumnType} (fits : p.fits type.shape = true) :
    checkOrder.findSome? ((ofParameter p).fault? type) = none ∧ (ofParameter p).parameter type.shape = p := by
  unfold fault?
  generalize type.shape = shape at fits ⊢
  unfold Parameter.fits at fits
  split at fits
  · exact ⟨rfl, rfl⟩
  · exact ⟨rfl, rfl⟩
  · exact ⟨rfl, rfl⟩
  · exact ⟨rfl, rfl⟩
  · exact ⟨rfl, rfl⟩
  · cases fits

lemma ofParameters_ofParameter (c : Column) :
    Column.ofParameters c.type c.id (.ofParameter c.parameter) c.moreThanZero = ok c := by
  obtain ⟨kept, same⟩ := GivenParameters.fault?_ofParameter c.fits
  unfold Column.ofParameters
  split
  · rename_i rule broken
    rw [kept] at broken
    cases broken
  · obtain ⟨type, id, parameter, moreThanZero, fits⟩ := c
    simp only [same]

/-- The type of a column on offer is read as it was written. -/
lemma readColumnType_tag {type : ColumnType} (offered : type ∈ ColumnType.all) :
    readColumnType (.text type.tag) = ok type := by
  have found : ∀ type ∈ ColumnType.all, ColumnType.ofTag? type.tag = some type := by decide +kernel
  unfold readColumnType
  simp only [found type offered]

/-- The fields of a column with the parameters that are given for it. -/
def columnValues (c : Column) (g : GivenParameters) : List (FieldName × Option Json) :=
  [(Name.type, some (.text c.type.tag)), (Name.columnId, c.id.map .text),
   (Name.inNamespace, g.namespaces.map writeIntegers), (Name.changeTag, g.changeTags.map (writeList writeChangeTagFilter)),
   (Name.logFilter, g.logFilters.map (writeList writeLogFilter)), (Name.milestones, g.milestones.map writeIntegers),
   (Name.filterByRule, (if c.moreThanZero then some () else none).map fun _ => .text moreThanZeroName)]

lemma writeColumn_eq (c : Column) :
    writeColumn c = .object (writeFields (columnValues c (.ofParameter c.parameter))) := by
  have parameter : writeParameter c.parameter =
      presentEntry Name.inNamespace writeIntegers (GivenParameters.ofParameter c.parameter).namespaces ++
      presentEntry Name.changeTag (writeList writeChangeTagFilter) (GivenParameters.ofParameter c.parameter).changeTags ++
      presentEntry Name.logFilter (writeList writeLogFilter) (GivenParameters.ofParameter c.parameter).logFilters ++
      presentEntry Name.milestones writeIntegers (GivenParameters.ofParameter c.parameter).milestones := by
    cases c.parameter with
    | scopes s => cases s <;> rfl
    | milestones list => cases list <;> rfl
  rw [writeColumn, parameter]
  cases rule : c.moreThanZero <;> simp [columnValues, writeFields, presentEntry_eq, rule]

lemma readParameters_columnValues {c : Column} {g : GivenParameters} {entries : Entries}
    (holds : Holds entries (columnValues c g)) : readParameters entries = ok g := by
  refine seq_eq_ok (seq_eq_ok (seq_eq_ok (map_eq_ok ?_) ?_) ?_) ?_
  · exact holds.possible writeIntegers (fun list _ => ⟨nofun, readMany_writeIntegers list⟩) (by simp [columnValues])
  · exact holds.possible (writeList writeChangeTagFilter) (fun list _ => ⟨nofun, readMany_writeList fun f _ =>
      readChangeTagFilter_writeChangeTagFilter f⟩) (by simp [columnValues])
  · exact holds.possible (writeList writeLogFilter) (fun list _ => ⟨nofun, readMany_writeList fun f _ =>
      readLogFilter_writeLogFilter f⟩) (by simp [columnValues])
  · exact holds.possible writeIntegers (fun list _ => ⟨nofun, readMany_writeIntegers list⟩) (by simp [columnValues])

lemma readColumn_writeColumn {c : Column} (offered : c.type ∈ ColumnType.all) : readColumn (writeColumn c) = ok c := by
  refine andThen_eq_ok_iff.2 ⟨ok c, ?_, rfl⟩
  refine readStrict_of_written _ (writeColumn_eq c) rfl (by decide) fun entries holds => ?_
  have given : Column.ofParameters c.type c.id (.ofParameter c.parameter)
      (if c.moreThanZero then some () else none).isSome = ok c := by
    rw [← ofParameters_ofParameter c]
    cases c.moreThanZero <;> rfl
  rw [← given]
  refine seq_eq_ok (seq_eq_ok (seq_eq_ok (map_eq_ok ?_) ?_) ?_) ?_
  · exact holds.required (readColumnType_tag offered) (by simp [columnValues])
  · exact holds.possible Json.text (fun s _ => ⟨nofun, readText_text s⟩) (by simp [columnValues])
  · exact readParameters_columnValues holds
  · exact holds.possible (fun _ => Json.text moreThanZeroName) (fun _ _ => ⟨nofun, rfl⟩) (by simp [columnValues])

/-! ### Requests, ladders, pyramids and known wikis -/

lemma readOrderBy_writeOrderBy (o : OrderBy) : readOrderBy (writeOrderBy o) = ok o := by
  have direction : readName ["asc", "desc"] descendingOfName? (.text (if o.descending then "desc" else "asc")) =
      ok o.descending := by
    cases o.descending <;> rfl
  refine readStrict_of_written [(Name.columnId, some (.text o.columnId)),
    (Name.direction, some (.text (if o.descending then "desc" else "asc")))] rfl rfl (by decide)
    fun entries holds => seq_eq_ok (map_eq_ok ?_) ?_
  · exact holds.required (readText_text o.columnId) (by simp)
  · exact holds.defaulted direction (by simp)

lemma readRung_writeRung (r : Rung) : readRung (writeRung r) = ok r := by
  refine readStrict_of_written [(Name.id, some (.text r.id)), (Name.label, some (.text r.label)),
    (Name.requiredContributions, some (writeNatural r.contributions)),
    (Name.requiredActiveDays, some (writeNatural r.activeDays))] rfl rfl (by decide) fun entries holds =>
      seq_eq_ok (seq_eq_ok (seq_eq_ok (map_eq_ok ?_) ?_) ?_) ?_
  · exact holds.required (readText_text r.id) (by simp)
  · exact holds.required (readText_text r.label) (by simp)
  · exact holds.required (readNatural_writeNatural r.contributions) (by simp)
  · exact holds.required (readNatural_writeNatural r.activeDays) (by simp)

/-- The fields of a request. -/
def requestValues (r : Request) : List (FieldName × Option Json) :=
  [(Name.wikiId, some (.text r.wikiId)), (Name.columns, some (writeList writeColumn r.columns)),
   (Name.requirements, r.requirements.map writeRequirement), (Name.orderBy, some (writeList writeOrderBy r.orderBy)),
   (Name.itemCount, r.itemCount.map writeNatural), (Name.startDate, r.window.start.map writeDay),
   (Name.endDate, some (writeDay r.window.finish)), (Name.skipBots, some (.bool r.skipBots)),
   (Name.serviceAwardLevels, r.ladder.map writeLadder)]

lemma readWindow_requestValues {r : Request} {entries : Entries} (holds : Holds entries (requestValues r)) :
    readWindow entries = ok ⟨r.window, r.ordered⟩ := by
  have start : possible entries Name.startDate readDay = ok r.window.start :=
    holds.possible writeDay (fun d _ => ⟨nofun, readDay_writeDay d⟩) (by simp [requestValues])
  have finish : readFinish entries (ok r.window.start) = ok r.window.finish := by
    refine holds.required (andThen_eq_ok_iff.2 ⟨r.window.finish, readDay_writeDay _, ?_⟩) (by simp [requestValues])
    have ordered := r.ordered
    cases first : r.window.start with
    | none => rfl
    | some d => exact if_pos (ordered d first)
  have window : orderedWindow r.window.start r.window.finish = ok ⟨r.window, r.ordered⟩ := dif_pos r.ordered
  unfold readWindow
  simp only [start, finish]
  exact window

lemma readRequest_writeRequest {r : Request} (offered : r.IsOffered) : readRequest (writeRequest r) = ok r := by
  refine readStrict_of_written (requestValues r) ?_ rfl (by decide) fun entries holds =>
    seq_eq_ok (seq_eq_ok (seq_eq_ok (seq_eq_ok (seq_eq_ok (seq_eq_ok (seq_eq_ok (map_eq_ok ?_) ?_) ?_) ?_) ?_)
      (readWindow_requestValues holds)) ?_) ?_
  · simp [writeRequest, requestValues, writeFields, presentEntry_eq]
  · exact holds.required (readText_text r.wikiId) (by simp [requestValues])
  · exact holds.defaulted (readList_writeList fun c listed => readColumn_writeColumn (offered.columns c listed))
      (by simp [requestValues])
  · exact holds.possible writeRequirement (fun q given => ⟨nofun,
      readRequirement_writeRequirement (offered.requirements q given)⟩) (by simp [requestValues])
  · exact holds.defaulted (readList_writeList fun o _ => readOrderBy_writeOrderBy o) (by simp [requestValues])
  · exact holds.possible writeNatural (fun n _ => ⟨nofun, readNatural_writeNatural n⟩) (by simp [requestValues])
  · exact holds.defaulted (readBool_bool r.skipBots) (by simp [requestValues])
  · exact holds.possible writeLadder (fun l _ => ⟨nofun, readList_writeList fun rung _ => readRung_writeRung rung⟩)
      (by simp [requestValues])

lemma readPyramid_writePyramid {p : Pyramid} (offered : p.IsOffered) : readPyramid (writePyramid p) = ok p := by
  have groups : ∀ g ∈ p.groups, readPyramidGroup (writePyramidGroup g) = ok g := by
    intro g listed
    refine readObject_of_written [(Name.name, some (.text g.name)),
      (Name.requirements, some (writeRequirement g.requirements))] rfl
      (by decide : [Name.name, Name.requirements].Pairwise FieldName.Apart) fun entries holds =>
        seq_eq_ok (map_eq_ok ?_) ?_
    · exact holds.required (readText_text g.name) (by simp)
    · exact holds.required (readRequirement_writeRequirement (offered g listed)) (by simp)
  refine readObject_of_written [(Name.id, some (.text p.id)), (Name.name, some (.text p.name)),
    (Name.groups, some (writeList writePyramidGroup p.groups))] rfl
    (by decide : [Name.id, Name.name, Name.groups].Pairwise FieldName.Apart) fun entries holds =>
      seq_eq_ok (seq_eq_ok (map_eq_ok ?_) ?_) ?_
  · exact holds.required (readText_text p.id) (by simp)
  · exact holds.required (readText_text p.name) (by simp)
  · exact holds.required (readList_writeList groups) (by simp)

lemma readKnownWiki_writeKnownWiki (w : KnownWiki) : readKnownWiki (writeKnownWiki w) = ok w := by
  have apart : [Name.id, Name.domain, Name.replicaDatabaseName, Name.languageCode, Name.timeZone, Name.flaglessBots,
      Name.hasServiceAwards, Name.serviceAwardPageName].Pairwise FieldName.Apart := by decide
  refine readObject_of_written [(Name.id, some (.text w.id)), (Name.domain, some (.text w.domain)),
    (Name.replicaDatabaseName, some (.text w.replicaDatabaseName)), (Name.languageCode, some (.text w.languageCode)),
    (Name.timeZone, some (.text w.timeZone)), (Name.flaglessBots, some (writeTexts w.flaglessBots)),
    (Name.hasServiceAwards, some (.bool w.hasServiceAwards)),
    (Name.serviceAwardPageName, w.serviceAwardPageName.map .text)] ?_ apart fun entries holds =>
      seq_eq_ok (seq_eq_ok (seq_eq_ok (seq_eq_ok (seq_eq_ok (seq_eq_ok (seq_eq_ok (map_eq_ok ?_) ?_) ?_) ?_) ?_) ?_)
        ?_) ?_
  · simp [writeKnownWiki, writeKnownWikiWith, writeFields, presentEntry_eq]
  · exact holds.required (readText_text w.id) (by simp)
  · exact holds.required (readText_text w.domain) (by simp)
  · exact holds.required (readText_text w.replicaDatabaseName) (by simp)
  · exact holds.required (readText_text w.languageCode) (by simp)
  · exact holds.required (readText_text w.timeZone) (by simp)
  · exact holds.defaulted (readList_writeList fun s _ => readText_text s) (by simp [writeTexts])
  · exact holds.defaulted (readBool_bool w.hasServiceAwards) (by simp)
  · exact holds.possible Json.text (fun s _ => ⟨nofun, readText_text s⟩) (by simp)

/-! ## Normal forms -/

/-- A request is read from some payload exactly when what it asks for is on offer. -/
theorem exists_readRequest_iff {r : Request} : (∃ json, readRequest json = ok r) ↔ r.IsOffered :=
  ⟨fun ⟨_, h⟩ => isOffered_of_readRequest h, fun h => ⟨_, readRequest_writeRequest h⟩⟩

/-- What is read from a payload is read again from what is written of it, with fields under their wire spelling, defaults
filled in and absent values left out. -/
theorem read_of_write :
    (∀ json r, readRequest json = ok r → readRequest (writeRequest r) = ok r) ∧
    (∀ json q, readRequirement json = ok q → readRequirement (writeRequirement q) = ok q) ∧
    (∀ json c, readColumn json = ok c → readColumn (writeColumn c) = ok c) ∧
    (∀ json o, readOrderBy json = ok o → readOrderBy (writeOrderBy o) = ok o) ∧
    (∀ json l, readRung json = ok l → readRung (writeRung l) = ok l) ∧
    (∀ json p, readPyramid json = ok p → readPyramid (writePyramid p) = ok p) ∧
    (∀ json w, readKnownWiki json = ok w → readKnownWiki (writeKnownWiki w) = ok w) :=
  ⟨fun _ _ h => readRequest_writeRequest (isOffered_of_readRequest h),
    fun _ _ h => readRequirement_writeRequirement (isOffered_of_readRequirement h),
    fun _ _ h => readColumn_writeColumn (type_mem_all_of_readColumn h),
    fun _ o _ => readOrderBy_writeOrderBy o, fun _ l _ => readRung_writeRung l,
    fun _ _ h => readPyramid_writePyramid (isOffered_of_readPyramid h),
    fun _ w _ => readKnownWiki_writeKnownWiki w⟩

end Payload

namespace Json

/-- A column with an underscored field name, a single namespace in place of a list, and a text for a number. -/
def ofLooseColumn : Json :=
  .object [("namespace", .text "04"), ("column_id", .text "talk"), ("type", .text "editsInNamespaceSinceRegistration")]

/-- A requirement with a number in place of a threshold, and with other spellings of its fields. -/
def ofLooseRequirement : Json :=
  .object [("totalEditsWithChangeTagAtMost", .object [("edits", .bool true), ("changeTag", .object [("change_tag_id", .int 2)])]),
    ("total_edits_at_least", .int 3), ("registrationStatus", .text "registered")]

/-- A request with these, and with midnight for a day. -/
def ofLooseRequest : Json :=
  .object [("end_date", .text "2023-12-31T00:00:00Z"), ("columns", .list [ofLooseColumn]),
    ("requirements", ofLooseRequirement), ("order_by", .list [.object [("columnId", .text "talk"), ("direction", .text "DESC")]]),
    ("startDate", .null), ("item_count", .text "+5"), ("wikiId", .text "w")]

end Json

/-- Payloads in other forms than they are written in are read, and read again from what is written of them. -/
theorem Payload.read_of_write_loose :
    (∃ r, readRequest Json.ofLooseRequest = .ok r ∧ readRequest (writeRequest r) = .ok r) ∧
    (∃ q, readRequirement Json.ofLooseRequirement = .ok q ∧ readRequirement (writeRequirement q) = .ok q) ∧
    (∃ c, readColumn Json.ofLooseColumn = .ok c ∧ readColumn (writeColumn c) = .ok c) ∧
    (∃ o, readOrderBy (.object [("column_id", .text "talk")]) = .ok o ∧ readOrderBy (writeOrderBy o) = .ok o) ∧
    (∃ l, readRung (.object [("required_active_days", .int 2), ("requiredContributions", .bool true), ("label", .text "A"),
      ("id", .text "a")]) = .ok l ∧ readRung (writeRung l) = .ok l) ∧
    (∃ p, readPyramid (.object [("name", .text "P"), ("id", .text "p"), ("color", .null), ("groups", .list [
      .object [("requirements", Json.ofLooseRequirement), ("name", .text "G")]])]) = .ok p ∧
        readPyramid (writePyramid p) = .ok p) ∧
    (∃ w, readKnownWiki (.object [("id", .text "w"), ("domain", .text "w.org"), ("replica_database_name", .text "w_p"),
      ("language_code", .text "w"), ("time_zone", .text "UTC")]) = .ok w ∧ readKnownWiki (writeKnownWiki w) = .ok w) := by
  obtain ⟨requests, requirements, columns, orders, rungs, pyramids, wikis⟩ := read_of_write
  have again : ∀ {α : Type} {read : Reader α} {write : α → Json} {json : Json},
      (∀ json a, read json = .ok a → read (write a) = .ok a) → (∃ a, read json = .ok a) →
        ∃ a, read json = .ok a ∧ read (write a) = .ok a :=
    fun settles ⟨a, parsed⟩ => ⟨a, parsed, settles _ a parsed⟩
  exact ⟨again requests ⟨_, rfl⟩, again requirements ⟨_, rfl⟩, again columns ⟨_, rfl⟩, again orders ⟨_, rfl⟩,
    again rungs ⟨_, rfl⟩, again pyramids ⟨_, rfl⟩, again wikis ⟨_, rfl⟩⟩

end ActivityReport
