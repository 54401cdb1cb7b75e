import ActivityReport.Payload.Request
import ActivityReport.Proofs.Plan.Spelling
import ActivityReport.Store.Database
import Mathlib.Data.List.Nodup

/-!
# Names of joined tables

A joined table goes by a name made of its key: a stem for the kind of the key, a part for its scope and
the digits of its day, with an underscore before each part. No stem and no day has an underscore, so
the first and the last underscore of a name part it in one way, and the parts tell stem, scope and day. Only
for log filters the scope is not told: nothing stands between the type and the action, so a type that
ends like an action is spelled like a shorter type with that action (`JoinKey.SpelledAlike`). Under names
that are too long, which are cut, the keys are told by the digests of the whole names.
-/

namespace ActivityReport

/-! ## Log filters -/

namespace LogFilter

/-- The text of a filter in a name, before characters are escaped. -/
def spelling : LogFilter → List Char
  | .ofType type => 'L' :: 't' :: type.toList
  | .ofAction action => 'L' :: 'a' :: action.toList
  | .ofTypeAction type action => 'L' :: 't' :: type.toList ++ 'L' :: 'a' :: action.toList

/-- Whether no part of a filter's type reads like the head of an action. -/
def HasPlainType (f : LogFilter) : Prop := ∀ type ∈ f.type?, ¬ ['L', 'a'] <:+: type.toList

/-- Where an action begins is told by the first type when neither type holds the head of an action. -/
lemma append_action_inj {type type' action action' : List Char} (plain : ¬ ['L', 'a'] <:+: type')
    (h : type ++ 'L' :: 'a' :: action = type' ++ 'L' :: 'a' :: action') (shorter : type.length ≤ type'.length) :
    type = type' ∧ action = action' := by
  obtain ⟨between, rfl⟩ : type <+: type' :=
    List.prefix_of_prefix_length_le ⟨_, h⟩ (List.prefix_append _ _) shorter
  rw [List.append_assoc, List.append_cancel_left_eq] at h
  match between, h with
  | [], h => exact ⟨(List.append_nil _).symm, by simpa using h⟩
  | [_], h => simp at h
  | c :: d :: rest, h =>
    simp only [List.cons_append, List.cons.injEq] at h
    obtain ⟨rfl, rfl, -⟩ := h
    exact absurd ⟨type, rest, by simp⟩ plain

/-- Filters with plain types are told by their spelling. -/
lemma eq_of_spelling {f g : LogFilter} (hf : f.HasPlainType) (hg : g.HasPlainType)
    (h : f.spelling = g.spelling) : f = g := by
  -- the mark before an action is looked for in the type: a plain type does not hold it
  have apart : ∀ (type type' action : String), ¬ ['L', 'a'] <:+: type.toList →
      type.toList ≠ type'.toList ++ 'L' :: 'a' :: action.toList := by
    intro type type' action plain eq
    exact plain (eq ▸ ⟨type'.toList, action.toList, by simp⟩)
  cases f with
  | ofType type =>
    cases g with
    | ofType type' => rw [String.toList_injective (by simpa [spelling] using h : type.toList = type'.toList)]
    | ofAction action' => simp [spelling] at h
    | ofTypeAction type' action' =>
      exact absurd (by simpa [spelling] using h) (apart type type' action' (hf type rfl))
  | ofAction action =>
    cases g with
    | ofAction action' =>
      rw [String.toList_injective (by simpa [spelling] using h : action.toList = action'.toList)]
    | ofType type' => simp [spelling] at h
    | ofTypeAction type' action' => simp [spelling] at h
  | ofTypeAction type action =>
    cases g with
    | ofType type' =>
      exact absurd (by simpa [spelling] using h.symm) (apart type' type action (hg type' rfl))
    | ofAction action' => simp [spelling] at h
    | ofTypeAction type' action' =>
      have same : type.toList = type'.toList ∧ action.toList = action'.toList := by
        have h : type.toList ++ 'L' :: 'a' :: action.toList = type'.toList ++ 'L' :: 'a' :: action'.toList := by
          simpa [spelling] using h
        rcases Nat.le_total type.toList.length type'.toList.length with le | le
        · exact append_action_inj (hg type' rfl) h le
        · obtain ⟨types, actions⟩ := append_action_inj (hf type rfl) h.symm le
          exact ⟨types.symm, actions.symm⟩
      rw [String.toList_injective same.1, String.toList_injective same.2]

end LogFilter

/-! ## Parts of names -/

namespace Alias

/-- A log filter is named by its spelling. -/
lemma logPart_eq (f : LogFilter) : logPart f = safe f.spelling := by
  cases f with
  | ofType type => exact List.append_nil _
  | ofAction action => rfl
  | ofTypeAction type action =>
    rw [LogFilter.spelling, safe_append]
    rfl

/-- A number begins with a digit. -/
lemma isDigit_of_digits_append {k : Nat} {u rest : List Char} {c : Char} (h : digits k ++ u = c :: rest) :
    c.isDigit = true := by
  obtain ⟨first, others, split⟩ := List.exists_cons_of_ne_nil (Nat.toDigits_ne_nil (n := k) (b := 10))
  rw [digits, split] at h
  rw [← List.head_eq_of_cons_eq h]
  refine Nat.isDigit_of_mem_toDigits (b := 10) (n := k) (by decide) (by decide) ?_
  rw [split]
  exact List.mem_cons_self

/-- A namespace is told by its part of a name. -/
lemma namespacePart_inj {m n : Int} (h : namespacePart m = namespacePart n) : m = n := by
  have noMinus : ∀ {k : Nat} {rest : List Char}, digits k ≠ 'M' :: rest := fun {k _} eq =>
    absurd (isDigit_of_digits_append ((List.append_nil (digits k)).trans eq)) (by decide)
  unfold namespacePart at h
  split at h
  · split at h
    · have := toDigits_inj (b := 10) (by decide) (by decide) (by simpa using h : digits m.natAbs = digits n.natAbs)
      omega
    · exact absurd (by simpa using h.symm) noMinus
  · split at h
    · exact absurd (by simpa using h) noMinus
    · have := toDigits_inj (b := 10) (by decide) (by decide) (by simpa using h : digits m.natAbs = digits n.natAbs)
      omega

/-- The part of a namespace begins with its letter. -/
lemma head?_namespacePart (n : Int) : (namespacePart n).head? = some 'N' := by
  unfold namespacePart
  split <;> rfl

/-- Whether a name has the part of a namespace, and of which one, is told by what stands there. -/
lemma namespacePart?_inj {m n : Option Int} (h : (m.map namespacePart).getD [] = (n.map namespacePart).getD []) :
    m = n := by
  cases m with
  | none =>
    cases n with
    | none => rfl
    | some n => cases (congrArg List.head? h).trans (head?_namespacePart n)
  | some m =>
    cases n with
    | none => cases (head?_namespacePart m).symm.trans (congrArg List.head? h)
    | some n => rw [namespacePart_inj h]

/-- The digits of a number end before any other letter. -/
lemma digits_append_inj {m n : Nat} {u v : List Char} (hu : ∀ c ∈ u.head?, c.isDigit = false)
    (hv : ∀ c ∈ v.head?, c.isDigit = false) (h : digits m ++ u = digits n ++ v) : m = n ∧ u = v := by
  have parts : ∀ {k : Nat} {rest : List Char}, (∀ c ∈ rest.head?, c.isDigit = false) →
      (digits k ++ rest).takeWhile Char.isDigit = digits k := by
    intro k rest stops
    have all : ∀ c ∈ digits k, c.isDigit = true := fun c => Nat.isDigit_of_mem_toDigits (by decide) (by decide)
    rw [List.takeWhile_append_of_pos all]
    cases rest with
    | nil => simp
    | cons c rest => rw [List.takeWhile_cons_of_neg (by simp [stops c rfl]), List.append_nil]
  have same : digits m = digits n := by rw [← parts hu, h, parts hv]
  rw [same] at h
  exact ⟨toDigits_inj (by decide) (by decide) same, List.append_cancel_left h⟩

/-- The letter with which the part of a scope begins. -/
def letter? : Scope → Option Char
  | .whole => none
  | .inNamespace _ => some 'N'
  | .tagged _ => some 'C'
  | .logged _ => some 'L'

/-- Each form of scopes has a letter of its own. -/
lemma head?_scopePart (s : Scope) : (scopePart? s).bind List.head? = letter? s := by
  cases s with
  | whole => rfl
  | inNamespace n => exact head?_namespacePart n
  | tagged f => rfl
  | logged f => cases f <;> rfl

/-- A change tag and its namespace are told by their part of a name. -/
lemma taggedPart_inj {f g : ChangeTagFilter} (h : scopePart? (.tagged f) = scopePart? (.tagged g)) : f = g := by
  have stops : ∀ (n : Option Int), ∀ c ∈ ((n.map namespacePart).getD []).head?, c.isDigit = false := by
    intro n c head
    cases n with
    | none => cases head
    | some n =>
      cases (head?_namespacePart n).symm.trans head
      decide
  have noMinus : ∀ {k : Nat} {rest rest' : List Char}, digits k ++ rest ≠ '-' :: rest' := fun eq =>
    absurd (isDigit_of_digits_append eq) (by decide)
  obtain ⟨s, m⟩ := f
  obtain ⟨t, n⟩ := g
  simp only [scopePart?, tagPart, Option.some.injEq, List.cons_append, List.cons.injEq, true_and] at h
  -- by the signs of the two tags: with the minus away, the digits end where the namespace begins
  split at h
  · split at h
    · simp only [List.cons_append, List.cons.injEq, true_and] at h
      obtain ⟨tag, rest⟩ := digits_append_inj (stops m) (stops n) h
      rw [namespacePart?_inj rest, show s = t by omega]
    · exact absurd h.symm noMinus
  · split at h
    · exact absurd h noMinus
    · obtain ⟨tag, rest⟩ := digits_append_inj (stops m) (stops n) h
      rw [namespacePart?_inj rest, show s = t by omega]

/-- Two scopes with one part of a name are one, or log filters that are spelled alike. -/
lemma eq_or_spelling_of_scopePart {s t : Scope} (h : scopePart? s = scopePart? t) :
    s = t ∨ ∃ f g, s = .logged f ∧ t = .logged g ∧ f.spelling = g.spelling := by
  have letters : letter? s = letter? t := by rw [← head?_scopePart, h, head?_scopePart]
  cases s with
  | whole =>
    cases t with
    | whole => exact Or.inl rfl
    | _ => cases letters
  | inNamespace m =>
    cases t with
    | inNamespace n => exact Or.inl (congrArg _ (namespacePart_inj (Option.some.inj h)))
    | _ => cases letters
  | tagged f =>
    cases t with
    | tagged g => exact Or.inl (congrArg _ (taggedPart_inj h))
    | _ => cases letters
  | logged f =>
    cases t with
    | logged g =>
      have parts := Option.some.inj h
      rw [logPart_eq, logPart_eq] at parts
      exact Or.inr ⟨f, g, rfl, rfl, safe_injective parts⟩
    | _ => cases letters

/-- What begins a name stands before an underscore or at its end. -/
lemma append_joined_inj {stem stem' : List Char} {m n : Option (List Char)} (hs : '_' ∉ stem) (ht : '_' ∉ stem')
    (h : stem ++ joined m = stem' ++ joined n) : stem = stem' ∧ m = n := by
  cases m with
  | none =>
    cases n with
    | none => exact ⟨by simpa [joined] using h, rfl⟩
    | some n =>
      have ends : stem = stem' ++ '_' :: n := by simpa [joined] using h
      exact absurd (ends ▸ by simp) hs
  | some m =>
    cases n with
    | none =>
      have ends : stem ++ '_' :: m = stem' := by simpa [joined] using h
      exact absurd (ends ▸ by simp) ht
    | some n =>
      obtain ⟨stems, parts⟩ := append_underscore_inj hs ht h
      exact ⟨stems, congrArg some parts⟩

/-- A digest has twelve digits, and no underscore is among them. -/
lemma length_digest (cs : List Char) : (digest cs).length = 12 := by
  rw [digest, List.length_take, Digest.Sha256.length_hexDigest]
  rfl

/-- There is no underscore in a digest. -/
lemma underscore_not_mem_digest (cs : List Char) : '_' ∉ digest cs := by
  intro h
  have written := List.mem_of_mem_take h
  simp only [Digest.Sha256.hexDigest, Digest.Sha256.hexWord, List.mem_flatMap, List.mem_map] at written
  obtain ⟨w, -, i, -, eq⟩ := written
  have hex : ∀ d < 16, Nat.digitChar d ≠ '_' := by decide
  exact hex _ (Nat.mod_lt _ (by decide)) eq

/-- A name that fits is no cut one when a part shorter than a digest ends it. -/
lemma append_ne_cut {start tail cut : List Char} (noUnderscore : '_' ∉ tail) (short : tail.length < 12)
    (cs : List Char) :
    start ++ '_' :: tail ≠ cut ++ '_' :: digest cs := by
  intro eq
  obtain ⟨-, ends⟩ := append_last_underscore_inj noUnderscore (underscore_not_mem_digest cs) eq
  rw [ends, length_digest] at short
  omega

/-- Bounded names tell the names, when digests tell those that are too long. Every name ends in a part shorter
than a digest. -/
lemma bounded_inj {start tail start' tail' : List Char} (ht : '_' ∉ tail) (short : tail.length < 12)
    (ht' : '_' ∉ tail') (short' : tail'.length < 12)
    (digests : maxLength < (start ++ '_' :: tail).length → maxLength < (start' ++ '_' :: tail').length →
      digest (start ++ '_' :: tail) = digest (start' ++ '_' :: tail') → start ++ '_' :: tail = start' ++ '_' :: tail')
    (h : bounded (start ++ '_' :: tail) = bounded (start' ++ '_' :: tail')) :
    start ++ '_' :: tail = start' ++ '_' :: tail' := by
  unfold bounded at h
  split at h
  · split at h
    · exact h
    · exact absurd h (append_ne_cut ht short _)
  · split at h
    · exact absurd h.symm (append_ne_cut ht' short' _)
    · refine digests (by omega) (by omega) ?_
      exact (append_last_underscore_inj (underscore_not_mem_digest _) (underscore_not_mem_digest _) h).2

end Alias

/-! ## Keys -/

/-- The kinds of keys. -/
inductive JoinKind where
  | snapshot (d : Dimension) (b : Boundary)
  | activity (a : Activity)
  | logFilter
  deriving DecidableEq, Repr

namespace JoinKind

/-- The part of a name that tells a kind. -/
def stem : JoinKind → List Char
  | snapshot d b => (d.name ++ b.name).toList
  | activity a => (RangeSource.activity a).stem.toList
  | logFilter => "logDates".toList

/-- All kinds. -/
def all : List JoinKind :=
  [snapshot .actor .finish, snapshot .actor .before, snapshot .wiki .finish, snapshot .wiki .before,
    activity .edits, activity .logEvents, logFilter]

/-- Every kind is listed. -/
lemma mem_all (kind : JoinKind) : kind ∈ all := by
  cases kind with
  | snapshot d b => cases d <;> cases b <;> decide
  | activity a => cases a <;> decide
  | logFilter => decide

/-- There is no underscore in a stem. -/
lemma underscore_not_mem_stem (kind : JoinKind) : '_' ∉ kind.stem := by
  have none : ∀ kind ∈ all, '_' ∉ kind.stem := by decide
  exact none kind kind.mem_all

/-- Kinds are told by their stems. -/
lemma stem_injective {kind kind' : JoinKind} (h : kind.stem = kind'.stem) : kind = kind' := by
  have apart : ∀ kind ∈ all, ∀ kind' ∈ all, kind.stem = kind'.stem → kind = kind' := by decide
  exact apart kind kind.mem_all kind' kind'.mem_all h

end JoinKind

/-- What a plan joins: a snapshot or a range. -/
inductive JoinKey where
  | snapshot (key : SnapshotKey)
  | range (key : RangeKey)
  deriving DecidableEq, Repr

namespace JoinKey

/-- The kind of a key. -/
def kind : JoinKey → JoinKind
  | snapshot k => .snapshot k.dimension k.boundary
  | range ⟨.activity a, _⟩ => .activity a
  | range ⟨.logFilter _, _⟩ => .logFilter

/-- The scope of the rows that are read. -/
def scope : JoinKey → Scope
  | snapshot k => k.scope
  | range k => k.source.scope

/-- The day up to which rows are read. -/
def date : JoinKey → Date
  | snapshot k => k.date
  | range k => k.date

/-- The name of a key before it is cut. -/
def fullName (k : JoinKey) : List Char :=
  k.kind.stem ++ Alias.joined (Alias.scopePart? k.scope) ++ '_' :: k.date.key.toList

/-- The name under which a key is joined. -/
def joinName : JoinKey → String
  | snapshot k => k.joinName
  | range k => k.joinName

/-- Whether two keys are one but for log filters that are spelled alike. -/
inductive SpelledAlike : JoinKey → JoinKey → Prop where
  | same (k : JoinKey) : SpelledAlike k k
  | snapshots {f g : LogFilter} (d : Dimension) (b : Boundary) (day : Date) (alike : f.spelling = g.spelling) :
      SpelledAlike (snapshot ⟨d, b, day, .logged f⟩) (snapshot ⟨d, b, day, .logged g⟩)
  | ranges {f g : LogFilter} (day : Date) (alike : f.spelling = g.spelling) :
      SpelledAlike (range ⟨.logFilter f, day⟩) (range ⟨.logFilter g, day⟩)

variable {j k : JoinKey}

/-- A key is joined under its name, cut where it is too long. -/
lemma joinName_eq (k : JoinKey) : k.joinName = String.ofList (Alias.bounded k.fullName) := by
  match k with
  | snapshot _ | range ⟨.activity _, _⟩ | range ⟨.logFilter _, _⟩ => rfl

/-- Keys that are spelled alike go by one name. -/
lemma SpelledAlike.fullName_eq (h : SpelledAlike j k) : j.fullName = k.fullName := by
  cases h with
  | same => rfl
  | snapshots d b day alike | ranges day alike =>
    simp only [fullName, scope, RangeSource.scope, Alias.scopePart?, Alias.logPart_eq, alike, kind, date]

/-- Keys with one kind, one day and one part for the scope are spelled alike. -/
lemma SpelledAlike.of_parts (kinds : j.kind = k.kind) (days : j.date = k.date)
    (parts : Alias.scopePart? j.scope = Alias.scopePart? k.scope) : SpelledAlike j k := by
  have scopes : j.scope = k.scope ∨ ∃ f g, j.scope = .logged f ∧ k.scope = .logged g ∧ f.spelling = g.spelling :=
    Alias.eq_or_spelling_of_scopePart parts
  match j, k with
  | snapshot ⟨d, b, day, s⟩, snapshot ⟨d', b', day', t⟩ =>
    obtain ⟨rfl, rfl⟩ : d = d' ∧ b = b' := by simpa [kind] using kinds
    obtain rfl : day = day' := days
    rcases scopes with (rfl : s = t) | ⟨f, g, (rfl : s = _), (rfl : t = _), alike⟩
    · exact .same _
    · exact .snapshots d b day alike
  | range ⟨.activity a, day⟩, range ⟨.activity a', day'⟩ =>
    obtain rfl : a = a' := by simpa [kind] using kinds
    obtain rfl : day = day' := days
    exact .same _
  | range ⟨.logFilter f, day⟩, range ⟨.logFilter g, day'⟩ =>
    obtain rfl : day = day' := days
    rcases scopes with eq | ⟨_, _, eq, eq', alike⟩
    · cases eq
      exact .same _
    · cases eq
      cases eq'
      exact .ranges day alike
  | snapshot _, range ⟨.activity _, _⟩ | snapshot _, range ⟨.logFilter _, _⟩ => cases kinds
  | range ⟨.activity _, _⟩, snapshot _ | range ⟨.logFilter _, _⟩, snapshot _ => cases kinds
  | range ⟨.activity _, _⟩, range ⟨.logFilter _, _⟩ | range ⟨.logFilter _, _⟩, range ⟨.activity _, _⟩ => cases kinds

/-- The name of a key tells its kind, its day and how its scope is spelled. -/
lemma spelledAlike_iff : SpelledAlike j k ↔ j.fullName = k.fullName := by
  constructor
  · exact SpelledAlike.fullName_eq
  · intro h
    obtain ⟨starts, days⟩ := append_last_underscore_inj (Date.underscore_not_mem_key _)
      (Date.underscore_not_mem_key _) h
    obtain ⟨stems, parts⟩ := Alias.append_joined_inj j.kind.underscore_not_mem_stem k.kind.underscore_not_mem_stem
      starts
    exact .of_parts (JoinKind.stem_injective stems) (Date.key_injective (String.toList_injective days)) parts

/-- Keys go by one name when they are spelled alike, unless a digest stands for two names. -/
lemma joinName_eq_iff (digests : Alias.maxLength < j.fullName.length → Alias.maxLength < k.fullName.length →
      Alias.digest j.fullName = Alias.digest k.fullName → j.fullName = k.fullName) :
    j.joinName = k.joinName ↔ SpelledAlike j k := by
  rw [joinName_eq, joinName_eq, spelledAlike_iff]
  constructor
  · intro h
    have short : ∀ d : Date, d.key.toList.length < 12 := fun d => Nat.lt_of_le_of_lt d.length_key_le (by decide)
    exact Alias.bounded_inj (Date.underscore_not_mem_key _) (short _) (Date.underscore_not_mem_key _) (short _)
      digests (String.ofList_injective h)
  · intro h
    rw [h]

/-- Keys that are spelled alike are one when their log filters have plain types. -/
lemma SpelledAlike.eq (h : SpelledAlike j k) (plain : ∀ f, j.scope = .logged f → f.HasPlainType)
    (plain' : ∀ f, k.scope = .logged f → f.HasPlainType) : j = k := by
  cases h with
  | same => rfl
  | snapshots d b day alike => rw [LogFilter.eq_of_spelling (plain _ rfl) (plain' _ rfl) alike]
  | ranges day alike => rw [LogFilter.eq_of_spelling (plain _ rfl) (plain' _ rfl) alike]

end JoinKey

/-! ## Plans -/

namespace JoinPlan

/-- All keys of a plan. -/
def joinKeys (p : JoinPlan) : List JoinKey := p.snapshots.map .snapshot ++ p.ranges.map .range

variable {p : JoinPlan}

/-- The names under which a plan joins its tables are those of its keys. -/
lemma joinNames_eq (p : JoinPlan) : p.joinNames = p.joinKeys.map JoinKey.joinName := by
  simp [joinNames, joinKeys, JoinKey.joinName, Function.comp_def]

/-- Whether digests tell the names of a plan that are too long. -/
def HasDistinctDigests (p : JoinPlan) : Prop :=
  ∀ j ∈ p.joinKeys, ∀ k ∈ p.joinKeys, Alias.maxLength < j.fullName.length → Alias.maxLength < k.fullName.length →
    Alias.digest j.fullName = Alias.digest k.fullName → j.fullName = k.fullName

instance (p : JoinPlan) : Decidable p.HasDistinctDigests := by
  unfold HasDistinctDigests
  infer_instance

/-- Two keys of a plan go by one name exactly when they are spelled alike: they are one key, or ask for log
filters whose texts run together. -/
theorem joinName_eq_iff_spelledAlike (digests : p.HasDistinctDigests) {j k : JoinKey} (hj : j ∈ p.joinKeys)
    (hk : k ∈ p.joinKeys) : j.joinName = k.joinName ↔ j.SpelledAlike k :=
  JoinKey.joinName_eq_iff (digests j hj k hk)

/-- A plan that reads nothing twice lists no key twice. -/
lemma nodup_joinKeys (snapshots : p.snapshots.Nodup) (ranges : p.ranges.Nodup) : p.joinKeys.Nodup := by
  refine List.nodup_append.2 ⟨snapshots.map fun _ _ h => JoinKey.snapshot.inj h, ranges.map fun _ _ h =>
    JoinKey.range.inj h, ?_⟩
  rintro _ left _ right rfl
  obtain ⟨_, _, rfl⟩ := List.mem_map.1 left
  obtain ⟨_, _, eq⟩ := List.mem_map.1 right
  cases eq

/-- When no type of a log filter holds the head of an action, all tables go by names of their own. -/
theorem nodup_joinNames (snapshots : p.snapshots.Nodup) (ranges : p.ranges.Nodup) (digests : p.HasDistinctDigests)
    (plain : ∀ k ∈ p.joinKeys, ∀ f, k.scope = .logged f → f.HasPlainType) : p.joinNames.Nodup := by
  rw [joinNames_eq]
  refine (nodup_joinKeys snapshots ranges).map_on fun j hj k hk same => ?_
  exact ((JoinKey.joinName_eq_iff (digests j hj k hk)).1 same).eq (plain j hj) (plain k hk)

/-- A plan with two keys that are spelled alike cannot be joined. -/
theorem isJoinable_eq_false {j k : JoinKey} (hj : j ∈ p.joinKeys) (hk : k ∈ p.joinKeys) (ne : j ≠ k)
    (alike : j.SpelledAlike k) (actorTable : String) : p.isJoinable actorTable = false := by
  rw [isJoinable, Bool.and_eq_false_iff]
  right
  rw [decide_eq_false_iff_not]
  intro nodup
  rw [List.map_cons, List.nodup_cons, joinNames_eq, List.map_map] at nodup
  refine ne (List.inj_on_of_nodup_map nodup.2 hj hk ?_)
  rw [Function.comp_apply, Function.comp_apply, JoinKey.joinName_eq, JoinKey.joinName_eq, alike.fullName_eq]

end JoinPlan

/-! ## Filters that are spelled alike -/

/-- The log events of some filters up to the end of 2023. -/
def Json.ofFilters (filters : List Json) : Json :=
  .object [("wikiId", .text "w"), ("columns", .list [.object [
      ("type", .text "logEventsSinceRegistrationByType"), ("logFilter", .list filters)]]),
    ("endDate", .text "2023-12-31")]

/-- The type `aLab`, and the type `a` with the action `b`. -/
def Json.ofAlikeFilters : Json :=
  .ofFilters [.object [("logType", .text "aLab")],
    .object [("logType", .text "a"), ("logAction", .text "b")]]

/-- Two different filters of a request are joined under one name. -/
theorem JoinPlan.joinName_eq_of_alike_filters :
    ∃ r p, Payload.readRequest Json.ofAlikeFilters = .ok r ∧ JoinPlan.ofRequest r = .ok p ∧ p.HasDistinctDigests ∧
      ∃ j ∈ p.joinKeys, ∃ k ∈ p.joinKeys, j ≠ k ∧ j.joinName = k.joinName := by
  refine ⟨_, _, rfl, rfl, by decide +kernel, ?_⟩
  decide +kernel

/-- A type and an action that are too long for a name, in two filters that differ in their last character. -/
def Json.ofLongFilters : Json :=
  .ofFilters [.object [("logType", .text "rights_of_bots_and_of_administrators_1")],
    .object [("logType", .text "rights_of_bots_and_of_administrators_2")]]

/-- The two filters with long types are joined under names of their own. -/
theorem JoinPlan.joinName_eq_iff_of_long_filters :
    ∃ r p, Payload.readRequest Json.ofLongFilters = .ok r ∧ JoinPlan.ofRequest r = .ok p ∧ p.HasDistinctDigests ∧
      ∃ j ∈ p.joinKeys, ∃ k ∈ p.joinKeys, Alias.maxLength < j.fullName.length ∧ Alias.maxLength < k.fullName.length ∧
        j ≠ k ∧ (j.joinName = k.joinName ↔ j.SpelledAlike k) := by
  obtain ⟨r, p, parsed, planned, digests, j, hj, k, hk, long, long', ne⟩ : ∃ r p,
      Payload.readRequest Json.ofLongFilters = .ok r ∧ JoinPlan.ofRequest r = .ok p ∧ p.HasDistinctDigests ∧
      ∃ j ∈ p.joinKeys, ∃ k ∈ p.joinKeys, Alias.maxLength < j.fullName.length ∧
        Alias.maxLength < k.fullName.length ∧ j ≠ k := by
    refine ⟨_, _, rfl, rfl, by decide +kernel, ?_⟩
    decide +kernel
  exact ⟨r, p, parsed, planned, digests, j, hj, k, hk, long, long', ne, joinName_eq_iff_spelledAlike digests hj hk⟩

end ActivityReport
