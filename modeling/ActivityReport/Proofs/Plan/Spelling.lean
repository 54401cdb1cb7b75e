import ActivityReport.Plan.Alias
import ActivityReport.Proofs.Calendar.Key

/-!
# Spelled texts

How a text stands in a name. Letters and digits stand for themselves, and every other character for its number between
two underscores, so a name has letters, digits and underscores only. A spelled character ends where the next one begins
(`Alias.spellPoint_append_inj`): after a first underscore at the second one, otherwise at once. So a text is told by its
spelling (`Alias.safe_injective`), and so is a text with numbers that are no characters, such as half of a surrogate
pair (`Alias.spelled_injective`).
-/

namespace ActivityReport

variable {a b u v : List Char}

/-! ## Underscores -/

/-- The first underscore parts a text in one way. -/
lemma append_underscore_inj (ha : '_' ∉ a) (hb : '_' ∉ b) (h : a ++ '_' :: u = b ++ '_' :: v) :
    a = b ∧ u = v := by
  rcases List.append_eq_append_iff.1 h with ⟨between, rfl, eq⟩ | ⟨between, rfl, eq⟩
  · cases between with
    | nil => exact ⟨(List.append_nil _).symm, List.tail_eq_of_cons_eq eq⟩
    | cons c rest =>
      cases List.head_eq_of_cons_eq eq
      simp at hb
  · cases between with
    | nil => exact ⟨List.append_nil _, (List.tail_eq_of_cons_eq eq).symm⟩
    | cons c rest =>
      cases List.head_eq_of_cons_eq eq
      simp at ha

/-- The last underscore parts a text in one way. -/
lemma append_last_underscore_inj (hu : '_' ∉ u) (hv : '_' ∉ v) (h : a ++ '_' :: u = b ++ '_' :: v) :
    a = b ∧ u = v := by
  have reversed : u.reverse ++ '_' :: a.reverse = v.reverse ++ '_' :: b.reverse := by
    simpa using congrArg List.reverse h
  obtain ⟨ends, starts⟩ := append_underscore_inj (by simpa using hu) (by simpa using hv) reversed
  exact ⟨List.reverse_inj.1 starts, List.reverse_inj.1 ends⟩

namespace Alias

/-! ## Numbers of characters -/

/-- The spelling of a number: the letter or digit with the number, or else the number itself between underscores. -/
def spellPoint (n : Nat) : List Char :=
  if isPlain (Char.ofNat n) then [Char.ofNat n] else '_' :: Nat.toDigits 16 n ++ ['_']

/-- A text, given by the numbers of its characters, with each of them spelled. Numbers that belong to no character are
spelled too. -/
def spelled (points : List Nat) : List Char := points.flatMap spellPoint

/-- A text is spelled by the numbers of its characters. -/
lemma safe_eq_spelled (cs : List Char) : safe cs = spelled (cs.map Char.toNat) := by
  rw [safe, spelled, List.flatMap_map]
  refine List.flatMap_congr fun c _ => ?_
  rw [spellPoint, Char.ofNat_toNat]
  rfl

/-- A number that is spelled by a letter or digit belongs to it. -/
lemma toNat_ofNat_of_isPlain {n : Nat} (plain : isPlain (Char.ofNat n) = true) : (Char.ofNat n).toNat = n := by
  unfold Char.ofNat at plain ⊢
  split
  · rfl
  · rename_i invalid
    rw [dif_neg invalid] at plain
    exact absurd plain (by decide)

lemma isPlain_underscore : isPlain '_' = false := by decide

/-- The number at the head of a spelling is told, and so is the rest. -/
lemma spellPoint_append_inj {m n : Nat} (h : spellPoint m ++ u = spellPoint n ++ v) : m = n ∧ u = v := by
  have noUnderscore : ∀ {k : Nat}, isPlain (Char.ofNat k) = true → Char.ofNat k ≠ '_' := by
    intro k plain same
    rw [same, isPlain_underscore] at plain
    cases plain
  -- an underscore is neither letter nor digit, so both begin with one or neither does
  unfold spellPoint at h
  split at h
  · split at h
    · rename_i plain plain'
      obtain ⟨same, rest⟩ := List.cons.inj h
      exact ⟨by rw [← toNat_ofNat_of_isPlain plain, same, toNat_ofNat_of_isPlain plain'], rest⟩
    · exact absurd (List.head_eq_of_cons_eq h) (noUnderscore ‹_›)
  · split at h
    · exact absurd (List.head_eq_of_cons_eq h).symm (noUnderscore ‹_›)
    -- and a number between underscores ends at the second of them
    · have numbers : Nat.toDigits 16 m ++ '_' :: u = Nat.toDigits 16 n ++ '_' :: v := by simpa using h
      obtain ⟨digits, rest⟩ := append_underscore_inj (underscore_not_mem_toDigits (by decide) (by decide))
        (underscore_not_mem_toDigits (by decide) (by decide)) numbers
      exact ⟨toDigits_inj (by decide) (by decide) digits, rest⟩

lemma spellPoint_ne_nil (n : Nat) : spellPoint n ≠ [] := by
  unfold spellPoint
  split <;> simp

/-- The numbers of a text are told by its spelling. -/
theorem spelled_injective : Function.Injective spelled := by
  intro points points' h
  induction points generalizing points' with
  | nil =>
    cases points' with
    | nil => rfl
    | cons n rest => exact absurd (List.append_eq_nil_iff.1 h.symm).1 (spellPoint_ne_nil n)
  | cons m rest ih =>
    cases points' with
    | nil => exact absurd (List.append_eq_nil_iff.1 h).1 (spellPoint_ne_nil m)
    | cons n rest' =>
      obtain ⟨rfl, same⟩ := spellPoint_append_inj h
      rw [ih same]

lemma isPlain_or_underscore_of_mem_spelled {points : List Nat} {c : Char} (h : c ∈ spelled points) :
    isPlain c = true ∨ c = '_' := by
  obtain ⟨n, -, h⟩ := List.mem_flatMap.1 h
  unfold spellPoint at h
  split at h
  · rename_i plain
    rw [List.mem_singleton.1 h]
    exact Or.inl plain
  · simp only [List.cons_append, List.mem_cons, List.mem_append, List.not_mem_nil, or_false] at h
    rcases h with rfl | digit | rfl
    · exact Or.inr rfl
    · obtain ⟨k, below, rfl⟩ := exists_of_mem_toDigits (by decide) digit
      have hex : ∀ k < 16, isPlain (Nat.digitChar k) = true := by decide
      exact Or.inl (hex k below)
    · exact Or.inr rfl

/-! ## Texts -/

lemma safe_append (cs ds : List Char) : safe (cs ++ ds) = safe cs ++ safe ds := List.flatMap_append

theorem safe_injective {cs ds : List Char} (h : safe cs = safe ds) : cs = ds := by
  rw [safe_eq_spelled, safe_eq_spelled] at h
  exact List.map_injective_iff.2 (fun _ _ => Char.toNat_inj.1) (spelled_injective h)

/-- Whether a character is an ASCII letter, an ASCII digit or an underscore. -/
def IsNameChar (c : Char) : Prop := 'A' ≤ c ∧ c ≤ 'Z' ∨ 'a' ≤ c ∧ c ≤ 'z' ∨ '0' ≤ c ∧ c ≤ '9' ∨ c = '_'

lemma isNameChar_of_mem_spelled {points : List Nat} {c : Char} (h : c ∈ spelled points) : IsNameChar c := by
  rcases isPlain_or_underscore_of_mem_spelled h with plain | underscore
  · simp only [isPlain, Text.isAsciiDigit, Bool.or_eq_true, Bool.and_eq_true, decide_eq_true_eq] at plain
    unfold IsNameChar
    tauto
  · exact Or.inr (Or.inr (Or.inr underscore))

/-- Every text is told by its spelling, whatever it holds, and a spelling has ASCII letters, ASCII digits and underscores
only. That goes for a text with numbers that are no characters too. -/
theorem told_by_spelling :
    (Function.Injective fun s : String => safe s.toList) ∧ (∀ s : String, ∀ c ∈ safe s.toList, IsNameChar c) ∧
      (∀ cs, safe cs = spelled (cs.map Char.toNat)) ∧ Function.Injective spelled ∧
        ∀ points, ∀ c ∈ spelled points, IsNameChar c := by
  refine ⟨fun s t same => String.toList_injective (safe_injective same), fun s c h => ?_, safe_eq_spelled,
    spelled_injective, fun _ _ => isNameChar_of_mem_spelled⟩
  rw [safe_eq_spelled] at h
  exact isNameChar_of_mem_spelled h

/-- A text that reads like the spelling of another one is spelled in another way, with the underscores that it has
spelled as well; and half of a surrogate pair is not spelled like the text that its spelling is. -/
theorem told_by_spelling_of_escape :
    safe "a_b".toList = "a_5f_b".toList ∧ safe "a_b".toList ≠ safe "a_5f_b".toList ∧
      ('_' ∈ safe "a_b".toList ∧ IsNameChar '_') ∧ spelled [0xD83D] = "_d83d_".toList ∧
        spelled [0xD83D] ≠ spelled ("_d83d_".toList.map Char.toNat) ∧ ('d' ∈ spelled [0xD83D] ∧ IsNameChar 'd') :=
  ⟨by decide, told_by_spelling.1.ne (by decide), ⟨by decide, told_by_spelling.2.1 "a_b" _ (by decide)⟩, by decide,
    told_by_spelling.2.2.2.1.ne (by decide), ⟨by decide, told_by_spelling.2.2.2.2 [0xD83D] _ (by decide)⟩⟩

end Alias

end ActivityReport
