import ForumMarkup.Text.Utf8
/-
**Percent encoding.**

In a URL a byte may be written as a percent sign and two hexadecimal digits.  Decoding works on runs
of ASCII characters: the bytes of a run, escaped ones included, are read as UTF-8.  A percent sign
that does not begin an escape stands for itself.  Encoding escapes every byte that is neither
unreserved nor in the given set of safe characters.

Main definitions:

* `ForumMarkup.Text.percentDecode` — the text that a percent-encoded text stands for;
* `ForumMarkup.Text.percentEncode` — the percent-encoded form of a text, for a set of safe
  characters.
-/

set_option autoImplicit false

namespace ForumMarkup.Text

/-! ### Decoding -/

/-- The value of a hexadecimal digit in either case. -/
def hexValue? (c : Char) : Option Nat :=
  let n := c.toNat
  if 48 ≤ n ∧ n ≤ 57 then some (n - 48)
  else if 65 ≤ n ∧ n ≤ 70 then some (n - 55)
  else if 97 ≤ n ∧ n ≤ 102 then some (n - 87)
  else none

/-- The bytes of a run of ASCII characters, with its escapes resolved. -/
def unescapeRun : List Char → List UInt8
  | [] => []
  | '%' :: a :: b :: rest =>
    match hexValue? a, hexValue? b with
    | some high, some low => UInt8.ofNat (high * 16 + low) :: unescapeRun rest
    | _, _ => 37 :: unescapeRun (a :: b :: rest)
  | c :: rest => UInt8.ofNat c.toNat :: unescapeRun rest

/-- An ASCII character. -/
def isAscii (c : Char) : Bool := c.toNat < 128

/-- Decodes a text whose ASCII characters directly before it are `run`, latest first. -/
def percentDecodeFrom (run : List Char) : List Char → List Char
  | [] => utf8DecodeLenient (unescapeRun run.reverse)
  | c :: rest =>
    if isAscii c then percentDecodeFrom (c :: run) rest
    else utf8DecodeLenient (unescapeRun run.reverse) ++ c :: percentDecodeFrom [] rest

/-- The text that a percent-encoded text stands for. -/
def percentDecode (cs : List Char) : List Char :=
  percentDecodeFrom [] cs

/-! ### Encoding -/

/-- The characters that no percent encoding escapes: ASCII letters and digits and four marks. -/
def isUnreserved (c : Char) : Bool :=
  let n := c.toNat
  (48 ≤ n && n ≤ 57) || (65 ≤ n && n ≤ 90) || (97 ≤ n && n ≤ 122) ||
    c == '_' || c == '.' || c == '-' || c == '~'

/-- One hexadecimal digit in upper case. -/
def upperHexDigit (n : Nat) : Char :=
  if n < 10 then Char.ofNat (48 + n) else Char.ofNat (55 + n)

/-- One byte as an escape. -/
def escapeByte (b : UInt8) : List Char :=
  ['%', upperHexDigit (b.toNat / 16), upperHexDigit (b.toNat % 16)]

/-- One character, escaped byte by byte unless it is safe. -/
def percentEncodeChar (safe : List Char) (c : Char) : List Char :=
  if isUnreserved c || safe.contains c then [c] else (utf8Bytes c).flatMap escapeByte

/-- The percent-encoded form of a text.  The safe characters have to be ASCII characters. -/
def percentEncode (safe : List Char) (cs : List Char) : List Char :=
  cs.flatMap (percentEncodeChar safe)

end ForumMarkup.Text
