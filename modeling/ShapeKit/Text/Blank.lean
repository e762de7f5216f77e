/-!
# Blank characters

The characters with the Unicode `White_Space` property, and trimming by them.
Shape IDs and selector expressions are trimmed with this class, so a no-break
space or an ideographic space around an ID is dropped like an ASCII blank.

Main statement: `isBlank` holds of every character that core's
`Char.isWhitespace` accepts (`isBlank_of_isWhitespace`).
-/

namespace ShapeKit.Text

/-- The Unicode `White_Space` property: the ASCII blanks tab, line feed, line
tabulation, form feed, carriage return and space, and the non-ASCII spaces and
separators of the property's table. -/
def isBlank (c : Char) : Bool :=
  let n := c.toNat
  (0x09 ≤ n && n ≤ 0x0D) || n == 0x20 || n == 0x85 || n == 0xA0 || n == 0x1680 ||
  (0x2000 ≤ n && n ≤ 0x200A) || n == 0x2028 || n == 0x2029 || n == 0x202F ||
  n == 0x205F || n == 0x3000

/-- Drops blank characters from both ends of a character list. -/
def trimBlankChars (cs : List Char) : List Char :=
  ((cs.dropWhile isBlank).reverse.dropWhile isBlank).reverse

/-- Drops blank characters from both ends of a string. -/
def trimBlank (s : String) : String :=
  String.ofList (trimBlankChars s.toList)

/-- Drops blank characters from the front of a string. -/
def trimBlankStart (s : String) : String :=
  String.ofList (s.toList.dropWhile isBlank)

theorem isBlank_of_isWhitespace (c : Char) (h : c.isWhitespace = true) : isBlank c = true := by
  simp only [Char.isWhitespace, Bool.or_eq_true, decide_eq_true_eq] at h
  simp only [isBlank, Bool.or_eq_true, Bool.and_eq_true, decide_eq_true_eq, beq_iff_eq]
  rcases h with ((h | h) | h) | h <;> subst h <;> decide

end ShapeKit.Text
