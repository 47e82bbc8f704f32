import ForumMarkup.Text.Utf8
/-
**Finding the encoding of a text.**

Structured text may come in any of the Unicode encoding forms.  A byte order mark names the form;
without one the zero bytes among the first four bytes do, because the first two characters of the
text are ASCII.  In a text whose form is found this way a surrogate that stands alone is no fault:
it is read as the replacement character.

Main definitions:

* `ForumMarkup.Text.Encoding` — the encoding forms, with their byte order;
* `ForumMarkup.Text.Encoding.detect` — the form of a list of bytes;
* `ForumMarkup.Text.Encoding.decode?` — the characters of bytes in a given form, without their byte
  order mark;
* `ForumMarkup.Text.decodeDetected?` — both steps together;
* `ForumMarkup.Text.utf16Decode?` — the characters of sixteen-bit units that are in order.
-/

set_option autoImplicit false

namespace ForumMarkup.Text

/-- The encoding forms.  `marked` forms begin with a byte order mark, which is no part of the
text. -/
inductive Encoding
  | utf8
  | utf8Marked
  | utf16Big
  | utf16Little
  | utf16Marked
  | utf32Big
  | utf32Little
  | utf32Marked
deriving DecidableEq, Repr

/-- The form of a list of bytes, by its byte order mark or its zero bytes. -/
def Encoding.detect (bytes : List UInt8) : Encoding :=
  match bytes with
  | 0x00 :: 0x00 :: 0xFE :: 0xFF :: _ => .utf32Marked
  | 0xFF :: 0xFE :: 0x00 :: 0x00 :: _ => .utf32Marked
  | 0xFE :: 0xFF :: _ => .utf16Marked
  | 0xFF :: 0xFE :: _ => .utf16Marked
  | 0xEF :: 0xBB :: 0xBF :: _ => .utf8Marked
  | a :: b :: c :: d :: _ =>
    if a == 0 then (if b == 0 then .utf32Big else .utf16Big)
    else if b == 0 then (if c == 0 && d == 0 then .utf32Little else .utf16Little)
    else .utf8
  | [a, b] => if a == 0 then .utf16Big else if b == 0 then .utf16Little else .utf8
  | _ => .utf8

/-- A code point as a character, with `none` for a surrogate that stands alone. -/
def scalar? (n : Nat) : Option Char :=
  if 0xD800 ≤ n ∧ n < 0xE000 then none else some (Char.ofNat n)

/-- A code point as a character, the replacement character for a surrogate that stands alone. -/
def scalar (n : Nat) : Char := (scalar? n).getD replacementChar

/-- The sixteen-bit units of a list of bytes, if they fill whole units. -/
def units16? (little : Bool) : List UInt8 → Option (List Nat)
  | [] => some []
  | [_] => none
  | a :: b :: rest => do
    let others ← units16? little rest
    return (if little then b.toNat * 256 + a.toNat else a.toNat * 256 + b.toNat) :: others

/-- The characters of a list of sixteen-bit units, with `none` for each surrogate that stands alone:
two surrogates in order make one character. -/
def pairUnits : List Nat → List (Option Char)
  | [] => []
  | [u] => [scalar? u]
  | u :: v :: rest =>
    if 0xD800 ≤ u ∧ u < 0xDC00 ∧ 0xDC00 ≤ v ∧ v < 0xE000 then
      some (Char.ofNat (0x10000 + (u - 0xD800) * 1024 + (v - 0xDC00))) :: pairUnits rest
    else scalar? u :: pairUnits (v :: rest)

/-- The characters of a list of sixteen-bit units. -/
def joinUnits (units : List Nat) : List Char :=
  (pairUnits units).map fun c => c.getD replacementChar

/-- The characters of bytes in sixteen-bit units; nothing where a surrogate stands alone. -/
def utf16Decode? (little : Bool) (bytes : List UInt8) : Option (List Char) := do
  (pairUnits (← units16? little bytes)).mapM id

/-- The characters of a list of bytes in four-byte units, if each unit is a code point. -/
def units32? (little : Bool) : List UInt8 → Option (List Char)
  | [] => some []
  | a :: b :: c :: d :: rest => do
    let n :=
      if little then ((d.toNat * 256 + c.toNat) * 256 + b.toNat) * 256 + a.toNat
      else ((a.toNat * 256 + b.toNat) * 256 + c.toNat) * 256 + d.toNat
    if n < 0x110000 then return scalar n :: (← units32? little rest) else none
  | _ => none

/-- Bytes in which the replacement character takes the place of each surrogate that is spelled with
three bytes. -/
def replaceSurrogates : List UInt8 → List UInt8
  | 0xED :: b :: c :: rest =>
    if within 0xA0 0xBF b && isTail c then utf8Bytes replacementChar ++ replaceSurrogates rest
    else 0xED :: replaceSurrogates (b :: c :: rest)
  | b :: rest => b :: replaceSurrogates rest
  | [] => []

/-- The characters of bytes in a given form.  A marked form reads its byte order from the mark. -/
def Encoding.decode? (form : Encoding) (bytes : List UInt8) : Option (List Char) :=
  match form with
  | .utf8 => utf8Decode? (replaceSurrogates bytes)
  | .utf8Marked => utf8Decode? (replaceSurrogates (bytes.drop 3))
  | .utf16Big => (units16? false bytes).map joinUnits
  | .utf16Little => (units16? true bytes).map joinUnits
  | .utf16Marked => (units16? (bytes.head? == some 0xFF) (bytes.drop 2)).map joinUnits
  | .utf32Big => units32? false bytes
  | .utf32Little => units32? true bytes
  | .utf32Marked => units32? (bytes.head? == some 0xFF) (bytes.drop 4)

/-- The characters of bytes in the form that they are found to have. -/
def decodeDetected? (bytes : List UInt8) : Option (List Char) :=
  (Encoding.detect bytes).decode? bytes

end ForumMarkup.Text
