import ActivityReport.Plan.Key
import Mathlib.Tactic.Lemma

/-!
# Hidden tables

The copy of a table in which a snapshot looks up its day goes by a name made from the key, and the table
of actors by one made from the wiki and the version of the tables. The two can be one name only for keys
of log filters (`SnapshotKey.hidesActors_eq_false`): an `r` follows the first underscore in the name of
the table of actors, and in the name of a copy only where a type or an action is spelled. With tables of
the version that is used unless another one is set they never are one
(`SnapshotKey.hidesActors_of_version`).
-/

namespace ActivityReport

/-- The characters of a name from its first underscore on, in lower case. -/
def afterStem (cs : List Char) : List Char := (cs.map Char.toLower).dropWhile (· != '_')

/-- What a name ends with stands after its stem when an underscore goes before it. -/
lemma mem_afterStem {c : Char} {stem rest : List Char} (h : c ∈ rest.map Char.toLower) :
    c ∈ afterStem (stem ++ '_' :: rest) := by
  unfold afterStem
  induction stem with
  | nil => simpa using Or.inr (by simpa using h)
  | cons d stem ih =>
    rw [List.cons_append, List.map_cons, List.dropWhile_cons]
    split
    · exact ih
    · simpa using Or.inr (Or.inr (Or.inr (by simpa using h)))

/-- A stem without underscores is left out. -/
lemma afterStem_subset {stem rest : List Char} (h : '_' ∉ stem.map Char.toLower) :
    afterStem (stem ++ rest) ⊆ rest.map Char.toLower := by
  unfold afterStem
  rw [List.map_append, List.dropWhile_append_of_pos]
  · exact (List.dropWhile_sublist _).subset
  · intro c hc
    simpa using fun e : c = '_' => h (e ▸ hc)

/-- The name of the table of actors has an `r` after its stem. -/
lemma Naming.mem_afterStem_actorTable (n : Naming) : 'r' ∈ afterStem n.actorTable.toList := by
  have split : n.actorTable.toList = n.wiki.toList ++ '_' :: ("actor".toList ++ n.suffix.toList) := by
    show (n.wiki ++ "_" ++ "actor" ++ n.suffix).toList = _
    simp [String.toList_append]
  rw [split]
  apply mem_afterStem
  rw [List.map_append]
  exact List.mem_append_left _ (by decide)

namespace Alias

/-- A decimal digit is no `r`. -/
lemma toLower_ne_of_isDigit {c : Char} (h : c.isDigit = true) : c.toLower ≠ 'r' := by
  simp only [Char.isDigit, Bool.and_eq_true, decide_eq_true_eq] at h
  have lower : c.toLower = c := by
    unfold Char.toLower
    rw [dif_neg]
    intro upper
    have := Nat.le_trans (UInt32.le_iff_toNat_le.1 upper.1) (UInt32.le_iff_toNat_le.1 h.2)
    exact absurd this (by decide)
  rw [lower]
  rintro rfl
  exact absurd h.2 (by decide)

/-- A decimal number is spelled without an `r`. -/
lemma toLower_ne_of_mem_digits {n : Nat} {c : Char} (h : c ∈ digits n) : c.toLower ≠ 'r' :=
  toLower_ne_of_isDigit (Nat.isDigit_of_mem_toDigits (by decide) (by decide) h)

/-- A digest is written without an `r`. -/
lemma toLower_ne_of_mem_digest {cs : List Char} {c : Char} (h : c ∈ digest cs) : c.toLower ≠ 'r' := by
  have written := List.mem_of_mem_take h
  simp only [Digest.Sha256.hexDigest, Digest.Sha256.hexWord, List.mem_flatMap, List.mem_map] at written
  obtain ⟨w, -, i, -, rfl⟩ := written
  have hex : ∀ d < 16, (Nat.digitChar d).toLower ≠ 'r' := by decide
  exact hex _ (Nat.mod_lt _ (by decide))

/-- A day is spelled without an `r`. -/
lemma toLower_ne_of_mem_key {d : Date} {c : Char} (h : c ∈ d.key.toList) : c.toLower ≠ 'r' := by
  have padded : ∀ n, c ∈ (Date.padded 2 n).toList → c.toLower ≠ 'r' := by
    intro n mem
    rw [Date.padded, String.toList_ofList, List.mem_append] at mem
    rcases mem with zero | digit
    · rw [List.eq_of_mem_replicate zero]
      decide
    · exact toLower_ne_of_mem_digits digit
  have split : d.key.toList = Nat.toDigits 10 d.year ++ (Date.padded 2 d.month).toList ++
      (Date.padded 2 d.day).toList := by
    show (toString d.year ++ Date.padded 2 d.month ++ Date.padded 2 d.day).toList = _
    simp [String.toList_append]
  rw [split, List.mem_append, List.mem_append] at h
  rcases h with (year | month) | day
  · exact toLower_ne_of_mem_digits year
  · exact padded _ month
  · exact padded _ day

/-- A namespace is spelled without an `r`. -/
lemma toLower_ne_of_mem_namespacePart {n : Int} {c : Char} (h : c ∈ namespacePart n) :
    c.toLower ≠ 'r' := by
  unfold namespacePart at h
  split at h
  all_goals
    simp only [List.mem_cons] at h
    rcases h with rfl | h
    · decide
    rcases h with rfl | h
    · decide
  · rcases h with rfl | h
    · decide
    · exact toLower_ne_of_mem_digits h
  · exact toLower_ne_of_mem_digits h

/-- A change tag is spelled without an `r`. -/
lemma toLower_ne_of_mem_tagPart {n : Int} {c : Char} (h : c ∈ tagPart n) : c.toLower ≠ 'r' := by
  simp only [tagPart, List.mem_cons] at h
  rcases h with rfl | rfl | h
  · decide
  · decide
  split at h
  · rw [List.mem_cons] at h
    rcases h with rfl | h
    · decide
    · exact toLower_ne_of_mem_digits h
  · exact toLower_ne_of_mem_digits h

/-- Every scope but a filter of log events is spelled without an `r`. -/
lemma toLower_ne_of_mem_scopePart {s : Scope} (notLogged : ∀ f, s ≠ .logged f) {c : Char}
    (h : c ∈ joined (scopePart? s)) : c.toLower ≠ 'r' := by
  cases s with
  | whole => cases h
  | logged f => exact absurd rfl (notLogged f)
  | inNamespace n =>
    rcases List.mem_cons.1 h with rfl | h
    · decide
    · exact toLower_ne_of_mem_namespacePart h
  | tagged f =>
    rcases List.mem_cons.1 h with rfl | h
    · decide
    rcases List.mem_append.1 h with h | h
    · exact toLower_ne_of_mem_tagPart h
    cases within : f.inNamespace with
    | none =>
      rw [within] at h
      cases h
    | some n =>
      rw [within] at h
      exact toLower_ne_of_mem_namespacePart h

/-- A bounded name keeps a short stem; an underscore and a digest may stand for the end of the rest. -/
lemma bounded_append (stem rest : List Char) (short : stem.length ≤ 45) :
    ∃ rest', bounded (stem ++ rest) = stem ++ rest' ∧
      ∀ c ∈ rest', c ∈ rest ∨ c = '_' ∨ c ∈ digest (stem ++ rest) := by
  unfold bounded
  split
  · exact ⟨rest, rfl, fun c hc => Or.inl hc⟩
  · refine ⟨rest.take (45 - stem.length) ++ '_' :: digest (stem ++ rest), ?_, ?_⟩
    · rw [show maxLength - digestLength - 1 = 45 from rfl, List.take_append,
        List.take_of_length_le short, List.append_assoc]
    · intro c hc
      simp only [List.mem_append, List.mem_cons] at hc
      rcases hc with hc | rfl | hc
      · exact Or.inl (List.mem_of_mem_take hc)
      · exact Or.inr (Or.inl rfl)
      · exact Or.inr (Or.inr hc)

end Alias

namespace SnapshotKey

/-- A name of a key without a filter of log events has no `r` after its stem. -/
lemma not_mem_afterStem_asOfName {k : SnapshotKey} (notLogged : ∀ f, k.scope ≠ .logged f) :
    'r' ∉ afterStem k.asOfName.toList := by
  obtain ⟨rest, eq, mem⟩ := Alias.bounded_append (k.dimension.name ++ k.boundary.name).toList
    (Alias.joined (Alias.scopePart? k.scope) ++ '_' :: k.date.key.toList)
    (by cases k.dimension <;> cases k.boundary <;> decide)
  have name : k.asOfName.toList = (k.dimension.name ++ k.boundary.name).toList ++ (rest ++ "_asof".toList) := by
    rw [asOfName, joinName, String.toList_append, String.toList_ofList, List.append_assoc, eq,
      List.append_assoc]
  rw [name]
  intro found
  -- the name of a table of actors has an `r` after its first underscore, and the stem ends before that
  have stem : '_' ∉ (k.dimension.name ++ k.boundary.name).toList.map Char.toLower := by
    cases k.dimension <;> cases k.boundary <;> decide
  have tail := afterStem_subset stem found
  rw [List.map_append, List.mem_append] at tail
  rcases tail with inRest | inEnd
  · obtain ⟨c, hc, lower⟩ := List.mem_map.1 inRest
    refine absurd lower ?_
    rcases mem c hc with hc | rfl | hc
    · rcases List.mem_append.1 hc with scope | hc
      · exact Alias.toLower_ne_of_mem_scopePart notLogged scope
      · rcases List.mem_cons.1 hc with rfl | day
        · decide
        · exact Alias.toLower_ne_of_mem_key day
    · decide
    · exact Alias.toLower_ne_of_mem_digest hc
  · exact absurd inEnd (by decide)

/-- A copy under a name of its own, whatever the case of its letters, hides no table. -/
lemma hidesActors_eq_false_of_ne {k : SnapshotKey} {actorTable : String}
    (different : k.asOfName.toList.map Char.toLower ≠ actorTable.toList.map Char.toLower) :
    k.hidesActors actorTable = false := by
  rw [hidesActors, Bool.and_eq_false_iff]
  right
  rw [isSameName, beq_eq_false_iff_ne]
  exact fun same => different (String.ofList_injective same)

/-- Only keys of log filters can hide the table of actors. -/
theorem hidesActors_eq_false {k : SnapshotKey} (notLogged : ∀ f, k.scope ≠ .logged f) (n : Naming) :
    k.hidesActors n.actorTable = false := by
  refine hidesActors_eq_false_of_ne fun same => ?_
  have actors := n.mem_afterStem_actorTable
  rw [afterStem, ← same] at actors
  exact not_mem_afterStem_asOfName notLogged actors

/-- With tables of the version that is used unless another one is set no key hides the table of actors. -/
theorem hidesActors_of_version {k : SnapshotKey} {n : Naming} (version : n.suffix = "_v2") :
    k.hidesActors n.actorTable = false := by
  refine hidesActors_eq_false_of_ne fun same => ?_
  have last := congrArg List.getLast? same
  -- the two names end differently
  have copy : (k.asOfName.toList.map Char.toLower).getLast? = some 'f' := by
    rw [asOfName, String.toList_append, List.map_append, List.getLast?_append,
      show ("_asof".toList.map Char.toLower).getLast? = some 'f' by decide, Option.some_or]
  have actors : (n.actorTable.toList.map Char.toLower).getLast? = some '2' := by
    show ((n.wiki ++ "_" ++ "actor" ++ n.suffix).toList.map Char.toLower).getLast? = _
    rw [version, String.toList_append, List.map_append, List.getLast?_append,
      show ("_v2".toList.map Char.toLower).getLast? = some '2' by decide, Option.some_or]
  rw [copy, actors] at last
  cases last

end SnapshotKey

end ActivityReport
