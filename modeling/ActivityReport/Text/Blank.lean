/-!
# Blank characters

The characters that may surround a number or a word without belonging to it. `isBlank` is the
`White_Space` property of Unicode; `isSpacing` adds the four information separators, which older
text formats also count as spacing. `trim` removes a class of characters at both ends.
-/

namespace ActivityReport.Text

/-- Whether a character has the Unicode property `White_Space`. -/
def isBlank (c : Char) : Bool :=
  let n := c.toNat
  (0x09 ≤ n && n ≤ 0x0D) || n == 0x20 || n == 0x85 || n == 0xA0 || n == 0x1680 ||
  (0x2000 ≤ n && n ≤ 0x200A) || n == 0x2028 || n == 0x2029 || n == 0x202F || n == 0x205F ||
  n == 0x3000

/-- Whether a character is white space or an information separator (U+001C to U+001F). -/
def isSpacing (c : Char) : Bool :=
  isBlank c || (0x1C ≤ c.toNat && c.toNat ≤ 0x1F)

/-- Drops the characters of a class at both ends of a text. -/
def trim (drop : Char → Bool) (cs : List Char) : List Char :=
  ((cs.dropWhile drop).reverse.dropWhile drop).reverse

/-- Every white-space character counts as spacing. -/
theorem isSpacing_of_isBlank {c : Char} (h : isBlank c = true) : isSpacing c = true := by
  simp [isSpacing, h]

/-- Trimming never lengthens a text. -/
theorem length_trim_le (drop : Char → Bool) (cs : List Char) : (trim drop cs).length ≤ cs.length := by
  simp only [trim, List.length_reverse]
  have outer := (List.dropWhile_sublist drop (l := (cs.dropWhile drop).reverse)).length_le
  have inner := (List.dropWhile_sublist drop (l := cs)).length_le
  simp only [List.length_reverse] at outer
  exact Nat.le_trans outer inner

end ActivityReport.Text
