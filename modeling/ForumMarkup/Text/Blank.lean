/-
**Blank characters and trimming.**

A character is blank when it only separates other characters: the ASCII layout characters, the four
information separators U+001C to U+001F, and the spaces and line ends of Unicode.  The zero-width
space U+200B and the byte order mark U+FEFF are not blank.

Main definitions:

* `ForumMarkup.Text.isBlank` — the class itself;
* `ForumMarkup.Text.trimStart`, `ForumMarkup.Text.trimEnd`, `ForumMarkup.Text.trim` — removal of
  blank characters from the ends of a list of characters;
* `ForumMarkup.Text.trimmed` — the same on both ends of a string.
-/

set_option autoImplicit false

namespace ForumMarkup.Text

/-- The code points of the blank characters, as inclusive ranges in ascending order. -/
def blankRanges : List (Nat × Nat) :=
  [ (0x9, 0xD), (0x1C, 0x20), (0x85, 0x85), (0xA0, 0xA0), (0x1680, 0x1680), (0x2000, 0x200A),
    (0x2028, 0x2029), (0x202F, 0x202F), (0x205F, 0x205F), (0x3000, 0x3000) ]

/-- A blank character is one that trimming removes. -/
def isBlank (c : Char) : Bool :=
  blankRanges.any fun r => r.1 ≤ c.toNat && c.toNat ≤ r.2

/-- Drops the blank characters in front. -/
def trimStart (cs : List Char) : List Char :=
  cs.dropWhile isBlank

/-- Drops the blank characters at the end. -/
def trimEnd (cs : List Char) : List Char :=
  (cs.reverse.dropWhile isBlank).reverse

/-- Drops the blank characters at both ends. -/
def trim (cs : List Char) : List Char :=
  trimEnd (trimStart cs)

/-- A string without the blank characters at its ends. -/
def trimmed (s : String) : String :=
  String.ofList (trim s.toList)

@[simp] theorem toList_trimmed (s : String) : (trimmed s).toList = trim s.toList := by
  simp [trimmed]

end ForumMarkup.Text
