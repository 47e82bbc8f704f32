import ForumMarkup.Text.Printable
/-
**Quoted text.**

Messages show a piece of text between quotes.  The apostrophe is the quote unless the text holds an
apostrophe and no double quote.  The quote in use and the backslash are escaped by a backslash, and
characters without a visible form by their code point in hexadecimal digits.

Main definitions:

* `ForumMarkup.Text.lowerHex` — a number in lower-case hexadecimal digits, of a least width;
* `ForumMarkup.Text.quoted` — the quoted form of a string.
-/

set_option autoImplicit false

namespace ForumMarkup.Text

/-- One hexadecimal digit in lower case. -/
def hexDigit (n : Nat) : Char :=
  if n < 10 then Char.ofNat (48 + n) else Char.ofNat (87 + n)

/-- The last `width` hexadecimal digits of a number, in lower case. -/
def lowerHex : (width : Nat) → Nat → List Char
  | 0, _ => []
  | width + 1, n => lowerHex width (n / 16) ++ [hexDigit (n % 16)]

/-- How one character is written between quotes. -/
def quoteChar (quote c : Char) : List Char :=
  if c == quote || c == '\\' then ['\\', c]
  else if c == '\n' then ['\\', 'n']
  else if c == '\r' then ['\\', 'r']
  else if c == '\t' then ['\\', 't']
  else if isPrintable c then [c]
  else if c.toNat < 0x100 then ['\\', 'x'] ++ lowerHex 2 c.toNat
  else if c.toNat < 0x10000 then ['\\', 'u'] ++ lowerHex 4 c.toNat
  else ['\\', 'U'] ++ lowerHex 8 c.toNat

/-- The quote for a text: the double quote when the apostrophe occurs in it and the double quote
does not. -/
def quoteFor (cs : List Char) : Char :=
  if cs.contains '\x27' && !cs.contains '\x22' then '\x22' else '\x27'

/-- A text between quotes. -/
def quoted (s : String) : String :=
  let quote := quoteFor s.toList
  String.ofList (quote :: s.toList.flatMap (quoteChar quote) ++ [quote])

end ForumMarkup.Text
