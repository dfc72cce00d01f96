import Stencil.Text.Search

/-!
# White space

Which characters are blank, and the ways a text is cut at them: trimming both ends and splitting
into words. All functions work on lists of characters, so that lengths are counts of characters.

* `length_trimStart_le`, `length_trimEnd_le`: trimming never adds a character.
-/

namespace Stencil.Text

/-- Blank characters: every character of the Unicode property `White_Space`, and the four
information separators U+001C to U+001F. -/
def isBlank (c : Char) : Bool :=
  let n := c.toNat
  (9 ≤ n && n ≤ 13) || (28 ≤ n && n ≤ 32) || n == 0x85 || n == 0xA0 || n == 0x1680 ||
    (0x2000 ≤ n && n ≤ 0x200A) || n == 0x2028 || n == 0x2029 || n == 0x202F || n == 0x205F ||
    n == 0x3000

/-- Drops the blanks a text begins with. -/
def trimStart (s : List Char) : List Char := s.dropWhile isBlank

/-- Drops the blanks a text ends with. -/
def trimEnd (s : List Char) : List Char := (s.reverse.dropWhile isBlank).reverse

/-- Drops the blanks at both ends. -/
def trim (s : List Char) : List Char := trimEnd (trimStart s)

/-- The characters before the first blank. -/
def firstWord (s : List Char) : List Char := s.takeWhile fun c => !isBlank c

/-- What follows the characters before the first blank. -/
def afterFirstWord (s : List Char) : List Char := s.dropWhile fun c => !isBlank c

theorem length_dropWhile_le (p : Char → Bool) (s : List Char) :
    (s.dropWhile p).length ≤ s.length :=
  (List.dropWhile_sublist p).length_le

theorem length_trimStart_le (s : List Char) : (trimStart s).length ≤ s.length :=
  length_dropWhile_le _ s

theorem length_trimEnd_le (s : List Char) : (trimEnd s).length ≤ s.length := by
  simpa [trimEnd] using length_dropWhile_le isBlank s.reverse

/-- The maximal runs of characters that are not blank, in order. -/
def words (s : List Char) : List (List Char) := (splitWhere isBlank s).filter (!·.isEmpty)

end Stencil.Text
