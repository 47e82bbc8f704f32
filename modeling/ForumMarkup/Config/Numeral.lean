import ForumMarkup.Text.Percent
/-
**Numerals of configuration files.**

The formats of configuration files write numbers and times alike: ASCII digits in one of four bases,
low lines between them that count for nothing, a sign in front.

Main definitions:

* `ForumMarkup.Numeral.isDigitOf`, `ForumMarkup.Numeral.numberOf` — digits and the number that they
  denote;
* `ForumMarkup.Numeral.sign`, `ForumMarkup.Numeral.signed` — signs;
* `ForumMarkup.Numeral.after?`, `ForumMarkup.Numeral.two?`, `ForumMarkup.Numeral.microseconds` — the
  parts of times.
-/

set_option autoImplicit false

namespace ForumMarkup.Numeral

/-! ### Digits -/

/-- A digit of a base. -/
def isDigitOf (base : Nat) (c : Char) : Bool :=
  match Text.hexValue? c with
  | some d => d < base
  | none => false

/-- A decimal digit. -/
def isDecimal (c : Char) : Bool := isDigitOf 10 c

/-- A digit of a base or a low line. -/
def isDigitOrLine (base : Nat) (c : Char) : Bool := isDigitOf base c || c == '_'

/-- The number that digits of a base denote; low lines count for nothing. -/
def numberOf (base : Nat) (cs : List Char) : Nat :=
  cs.foldl (fun n c => if c == '_' then n else n * base + (Text.hexValue? c).getD 0) 0

/-! ### Signs -/

/-- The sign in front of a number, and what follows it. -/
def sign : List Char → Bool × List Char
  | '-' :: rest => (true, rest)
  | '+' :: rest => (false, rest)
  | cs => (false, cs)

/-- The integer of a sign and a magnitude. -/
def signed (negative : Bool) (n : Nat) : Int := if negative then -(n : Int) else n

/-! ### Parts of times -/

/-- What follows a character in front. -/
def after? (c : Char) : List Char → Option (List Char)
  | d :: rest => if c == d then some rest else none
  | [] => none

/-- The number of two digits in front, and what follows. -/
def two? : List Char → Option (Nat × List Char)
  | a :: b :: rest =>
    if isDecimal a && isDecimal b then some (numberOf 10 [a, b], rest) else none
  | _ => none

/-- The number of microseconds of the digits of a second after its point; further digits are cut
off. -/
def microseconds (digits : List Char) : Nat :=
  numberOf 10 ((digits ++ List.replicate 6 '0').take 6)

end ForumMarkup.Numeral
