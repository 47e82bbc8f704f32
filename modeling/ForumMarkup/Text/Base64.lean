/-
**Base64.**

Bytes can be written with sixty-four characters, four of them for three bytes.  A reader passes over
all other characters.  Padding that fills up a group of four ends the text, and a group that has no
padding must be whole.

Main definitions:

* `ForumMarkup.Text.base64Digits?` — the digits of a text;
* `ForumMarkup.Text.base64Decode?` — the bytes of a text.
-/

set_option autoImplicit false

namespace ForumMarkup.Text

/-- The sixty-four characters in the order of their values. -/
def base64Alphabet : List Char :=
  "ABCDEFGHIJKLMNOPQRSTUVWXYZabcdefghijklmnopqrstuvwxyz0123456789+/".toList

/-- The digits of a text, after `place` digits of a group and some padding behind them. -/
def base64Digits? (place padding : Nat) : List Char → Option (List Nat)
  | [] => if place = 0 then some [] else none
  | c :: cs =>
    if c == '=' then
      if place < 2 then base64Digits? place padding cs
      else if 4 ≤ place + padding + 1 then some []
      else base64Digits? place (padding + 1) cs
    else
      let d := base64Alphabet.idxOf c
      if d < 64 then (base64Digits? ((place + 1) % 4) 0 cs).map fun ds => d :: ds
      else base64Digits? place padding cs

/-- The bytes of digits, four digits for three bytes. -/
def base64Bytes : List Nat → List UInt8
  | a :: b :: c :: d :: rest =>
    .ofNat (a * 4 + b / 16) :: .ofNat (b % 16 * 16 + c / 4) :: .ofNat (c % 4 * 64 + d) ::
      base64Bytes rest
  | [a, b, c] => [.ofNat (a * 4 + b / 16), .ofNat (b % 16 * 16 + c / 4)]
  | [a, b] => [.ofNat (a * 4 + b / 16)]
  | _ => []

/-- The bytes of a text. -/
def base64Decode? (cs : List Char) : Option (List UInt8) :=
  (base64Digits? 0 0 cs).map base64Bytes

end ForumMarkup.Text
