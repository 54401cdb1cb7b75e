import ActivityReport.Proofs.Plan.Naming

/-!
# Lengths and ends of names

How long names get, and how the families of names are told apart. What stands after the last underscore of a name is
a day, in five to eight digits, when the name is whole; it is a digest, of twelve digits, when the name is cut. The name
of a copy ends in four letters after its last underscore. So no name is of two families, whatever text stands for its
scope (`NameParts.names_apart`).
-/

namespace ActivityReport

/-! ## Parts -/

namespace Alias

lemma length_bounded_le (cs : List Char) : (bounded cs).length ≤ maxLength := by
  unfold bounded
  split
  · assumption
  · rw [List.length_append, List.length_cons, length_digest, List.length_take]
    unfold maxLength digestLength
    omega

end Alias

namespace Date

lemma le_length_key (d : Date) : 5 ≤ d.key.toList.length := by
  have year := Nat.length_toDigits_pos (b := 10) (n := d.year)
  obtain ⟨month, day⟩ := d.month_le_day_le
  rw [toList_key, List.length_append, List.length_append, length_padded (by omega), length_padded (by omega)]
  omega

end Date

/-! ## Names -/

/-- What a name is made of: a kind, a text for the scope, if any, and a day. -/
structure NameParts where
  kind : JoinKind
  scope : Option (List Char)
  day : Date

namespace NameParts

/-- The name before it is cut. -/
def fullName (p : NameParts) : List Char := p.kind.stem ++ Alias.joined p.scope ++ '_' :: p.day.key.toList

/-- The name, cut where it is too long. -/
def name (p : NameParts) : String := String.ofList (Alias.bounded p.fullName)

/-- The name of the copy in which a day is looked up. -/
def asOfName (p : NameParts) : String := p.name ++ "_asof"

/-- Whether the name is too long and is cut. -/
def IsCut (p : NameParts) : Prop := Alias.maxLength < p.fullName.length

variable {p q : NameParts}

/-- What stands after the last underscore of a name: the day, or a digest where the name is cut. -/
def tail (p : NameParts) : List Char :=
  if p.fullName.length ≤ Alias.maxLength then p.day.key.toList else Alias.digest p.fullName

/-- A name ends in an underscore and its tail. -/
lemma exists_toList_name (p : NameParts) : ∃ start, p.name.toList = start ++ '_' :: p.tail := by
  rw [name, String.toList_ofList, Alias.bounded, tail]
  split
  · exact ⟨_, rfl⟩
  · exact ⟨_, rfl⟩

lemma underscore_not_mem_tail (p : NameParts) : '_' ∉ p.tail := by
  unfold tail
  split
  · exact Date.underscore_not_mem_key _
  · exact Alias.underscore_not_mem_digest _

lemma length_tail_of_isCut (cut : p.IsCut) : p.tail.length = 12 := by
  rw [tail, if_neg (Nat.not_le.2 cut), Alias.length_digest]

lemma length_tail_of_not_isCut (whole : ¬ p.IsCut) : 5 ≤ p.tail.length ∧ p.tail.length ≤ 8 := by
  rw [tail, if_pos (Nat.not_lt.1 whole)]
  exact ⟨Date.le_length_key _, Date.length_key_le _⟩

lemma tail_eq_of_name_eq (same : p.name = q.name) : p.tail = q.tail := by
  obtain ⟨start, split⟩ := p.exists_toList_name
  obtain ⟨start', split'⟩ := q.exists_toList_name
  -- the underscore before the tail is the last one of the name
  exact (append_last_underscore_inj p.underscore_not_mem_tail q.underscore_not_mem_tail
    (split.symm.trans ((congrArg String.toList same).trans split'))).2

/-- No name of a copy is a name of a key: their tails have different lengths. -/
lemma asOfName_ne_name (p q : NameParts) : p.asOfName ≠ q.name := by
  intro same
  obtain ⟨start, split⟩ := q.exists_toList_name
  have copy : p.asOfName.toList = p.name.toList ++ '_' :: "asof".toList := String.toList_append
  rw [same, split] at copy
  obtain ⟨-, tails⟩ := append_last_underscore_inj q.underscore_not_mem_tail (by decide) copy
  have four : q.tail.length = 4 := congrArg List.length tails
  by_cases cut : q.IsCut
  · have := length_tail_of_isCut cut
    omega
  · have := length_tail_of_not_isCut cut
    omega

end NameParts

/-- What the name of a key is made of. -/
def JoinKey.parts (k : JoinKey) : NameParts := ⟨k.kind, Alias.scopePart? k.scope, k.date⟩

lemma JoinKey.joinName_eq_name (k : JoinKey) : k.joinName = k.parts.name := k.joinName_eq

namespace NameParts

/-- Names have 58 characters at most, and the names of copies 63; a cut name is no whole one, and the name of a copy is no
name of a key, nor that of the copy for another name. Every key goes by such a name. -/
theorem names_apart :
    (∀ k : JoinKey, k.joinName = k.parts.name) ∧
    (∀ k : SnapshotKey, k.asOfName = (JoinKey.snapshot k).parts.asOfName) ∧
    ∀ p q : NameParts, p.name.length ≤ 58 ∧ p.asOfName.length ≤ 63 ∧ (p.IsCut → ¬ q.IsCut → p.name ≠ q.name) ∧
      p.asOfName ≠ q.name ∧ (p.name ≠ q.name → p.asOfName ≠ q.asOfName) := by
  refine ⟨JoinKey.joinName_eq_name, fun k => congrArg (· ++ "_asof") (JoinKey.joinName_eq_name (.snapshot k)),
    fun p q => ?_⟩
  have short : p.name.length ≤ 58 := by
    rw [name, ← String.length_toList, String.toList_ofList]
    exact Alias.length_bounded_le _
  refine ⟨short, ?_, fun cut whole same => ?_, asOfName_ne_name p q, fun ne same => ne ?_⟩
  · rw [asOfName, String.length_append]
    exact Nat.add_le_add_right short 5
  · have long := length_tail_of_isCut cut
    have few := length_tail_of_not_isCut whole
    rw [tail_eq_of_name_eq same] at long
    omega
  · have copies : p.name.toList ++ "_asof".toList = q.name.toList ++ "_asof".toList := by
      simpa only [asOfName, String.toList_append] using congrArg String.toList same
    exact String.toList_injective (List.append_cancel_right copies)

end NameParts

/-- The log events of a type with a long name up to the first day of 2100. -/
def JoinKey.ofLongType : JoinKey :=
  .snapshot ⟨.actor, .finish, Date.neverAfter, .logged (.ofType "rights_of_bots_and_of_administrators_1")⟩

/-- The edits up to the first day of the calendar. -/
def JoinKey.ofFirstDay : JoinKey := .range ⟨.activity .edits, default⟩

/-- The name for a long type is cut, to 58 characters, and it is not the name for the first day; nor are the names of
their copies one. -/
theorem NameParts.names_apart_of_long_type :
    JoinKey.ofFirstDay.joinName = "editDates_10101" ∧ JoinKey.ofLongType.joinName.length = 58 ∧
      JoinKey.ofLongType.parts.IsCut ∧ ¬ JoinKey.ofFirstDay.parts.IsCut ∧
      JoinKey.ofLongType.parts.name ≠ JoinKey.ofFirstDay.parts.name ∧
      JoinKey.ofLongType.parts.asOfName ≠ JoinKey.ofFirstDay.parts.asOfName := by
  have cut : JoinKey.ofLongType.parts.IsCut := by
    unfold NameParts.IsCut
    decide +kernel
  have whole : ¬ JoinKey.ofFirstDay.parts.IsCut := by
    unfold NameParts.IsCut
    decide +kernel
  obtain ⟨-, -, apart, -, copies⟩ := names_apart.2.2 JoinKey.ofLongType.parts JoinKey.ofFirstDay.parts
  exact ⟨by decide +kernel, by decide +kernel, cut, whole, apart cut whole, copies (apart cut whole)⟩

end ActivityReport
