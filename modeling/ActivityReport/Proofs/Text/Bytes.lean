import Mathlib.Data.Char
import Mathlib.Data.String.Basic
import Mathlib.Tactic.Lemma
import Mathlib.Tactic.SplitIfs

/-!
# The order of bytes

Texts are compared character by character. That is the order of their UTF-8 bytes: a character with a smaller number
is written in smaller bytes, whatever follows it (`Text.utf8EncodeChar_append_lt`), so texts and their bytes have one
order (`Text.bytes_lt_iff`).
-/

namespace ActivityReport.Text

/-- The UTF-8 bytes of a text. -/
def bytes (s : String) : List UInt8 := s.toUTF8.data.toList

lemma bytes_eq_flatMap (s : String) : bytes s = s.toList.flatMap String.utf8EncodeChar := by
  have written : s.toUTF8 = s.toList.utf8Encode := String.utf8Encode_toList.symm
  rw [bytes, written, List.utf8Encode, List.data_toByteArray]

/-- The bytes of a smaller character are smaller, whatever follows: the first byte tells how many there are, and among
as many the high digits come first. -/
lemma utf8EncodeChar_append_lt {c d : Char} (less : c < d) (u v : List UInt8) :
    String.utf8EncodeChar c ++ u < String.utf8EncodeChar d ++ v := by
  have numbers : c.val.toNat < d.val.toNat := less
  have last : d.val.toNat < 0x110000 := by
    rcases d.valid with low | ⟨-, high⟩
    · exact Nat.lt_trans low (by decide)
    · exact high
  unfold String.utf8EncodeChar
  dsimp only
  generalize c.val.toNat = m at *
  generalize d.val.toNat = n at *
  split_ifs
  all_goals
    simp only [List.cons_append, List.nil_append, List.cons_lt_cons_iff, UInt8.lt_iff_toNat_lt, ← UInt8.toNat_inj,
      UInt8.toNat_ofNat', Nat.reducePow]
    simp (disch := omega) only [Nat.mod_eq_of_lt]
    omega

lemma flatMap_utf8EncodeChar_lt {cs ds : List Char} (less : cs < ds) :
    cs.flatMap String.utf8EncodeChar < ds.flatMap String.utf8EncodeChar := by
  induction less with
  | @nil d ds =>
    cases bytes : String.utf8EncodeChar d with
    | nil => exact absurd bytes String.utf8EncodeChar_ne_nil
    | cons b rest =>
      rw [List.flatMap_nil, List.flatMap_cons, bytes]
      exact List.Lex.nil
  | rel smaller => exact utf8EncodeChar_append_lt smaller _ _
  | cons _ ih => exact List.append_left_lt ih

/-- Texts are in the order of their bytes. -/
theorem bytes_lt_iff {s t : String} : bytes s < bytes t ↔ s < t := by
  have mono : ∀ {s t : String}, s < t → bytes s < bytes t := by
    intro s t less
    rw [bytes_eq_flatMap, bytes_eq_flatMap]
    exact flatMap_utf8EncodeChar_lt (String.lt_iff_toList_lt.1 less)
  refine ⟨fun less => ?_, mono⟩
  rcases lt_trichotomy s t with less' | rfl | greater
  · exact less'
  · exact absurd less (List.lt_irrefl _)
  · exact absurd (mono greater) (List.lt_asymm less)

end ActivityReport.Text
