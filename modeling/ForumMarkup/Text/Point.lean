import ForumMarkup.Text.Encoding
import ForumMarkup.Text.Quoted
/-
**Code points.**

A text is made of characters, but a notation that names characters by number can also name a
surrogate, half of a pair, which is no character and has no encoding in UTF-8.  Where a surrogate
has to be shown among characters, the replacement character stands for it.

Main definitions:

* `ForumMarkup.Text.Point` — a character or a surrogate;
* `ForumMarkup.Text.pointsOf`, `ForumMarkup.Text.imageOf` — the code points of a text, and the text
  that is shown for code points;
* `ForumMarkup.Text.IllFormed` — code points with a surrogate among them, with their image and their
  quoted form.
-/

set_option autoImplicit false

namespace ForumMarkup.Text

/-- A code point: a character, or the surrogate at a place among the surrogates. -/
inductive Point
  | char (c : Char)
  | surrogate (place : Fin 0x800)
deriving DecidableEq, Repr

namespace Point

/-- The code point of a number. -/
def ofNat (n : Nat) : Point :=
  if h : 0xD800 ≤ n ∧ n < 0xE000 then .surrogate ⟨n - 0xD800, by omega⟩ else .char (Char.ofNat n)

/-- Whether a code point is a surrogate. -/
def isSurrogate : Point → Bool
  | .char _ => false
  | .surrogate _ => true

/-- The character that is shown for a code point. -/
def image : Point → Char
  | .char c => c
  | .surrogate _ => replacementChar

/-- How a code point is written between quotes. -/
def quotedIn (quote : Char) : Point → List Char
  | .char c => quoteChar quote c
  | .surrogate place => ['\\', 'u'] ++ lowerHex 4 (0xD800 + place)

end Point

/-- The code points of a text. -/
def pointsOf (s : String) : List Point :=
  s.toList.map .char

/-- The text that is shown for code points. -/
def imageOf (points : List Point) : String :=
  String.ofList (points.map Point.image)

/-- Code points that are no text, because there is a surrogate among them. -/
structure IllFormed where
  points : List Point
  broken : points.any Point.isSurrogate = true
deriving DecidableEq, Repr

namespace IllFormed

/-- The text that is shown for the code points. -/
def image (t : IllFormed) : String :=
  imageOf t.points

/-- The code points between quotes, with the surrogates as escapes. -/
def quoted (t : IllFormed) : String :=
  let quote := quoteFor t.image.toList
  String.ofList (quote :: t.points.flatMap (Point.quotedIn quote) ++ [quote])

end IllFormed

end ForumMarkup.Text
