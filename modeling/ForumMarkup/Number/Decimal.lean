import ForumMarkup.Number.Binary64
import ForumMarkup.Text.Digit
/-
**Numbers in decimal text.**

A text denotes a double-precision number if it holds digits of any script with at most one point
among them, an exponent after that, or a word for infinity or for not-a-number.  It may have a sign
in front and blank space around it.

Main definitions:

* `ForumMarkup.Decimal.number?` — the number of digits, point and exponent;
* `ForumMarkup.Decimal.read?` — the number that a text denotes.
-/

set_option autoImplicit false

namespace ForumMarkup.Decimal

/-- The values of the digits in front, and what follows them. -/
def digits (cs : List Char) : List Nat × List Char :=
  let (ds, rest) := cs.span fun c => (Text.digitValue? c).isSome
  (ds.filterMap Text.digitValue?, rest)

/-- The number that the values of digits denote. -/
def numberOf (ds : List Nat) : Nat := ds.foldl (fun n d => n * 10 + d) 0

/-- The digits of a fraction, if a point is in front, and what follows. -/
def fraction : List Char → List Nat × List Char
  | '.' :: rest => digits rest
  | cs => ([], cs)

/-- The exponent that takes up a text; an empty text has exponent zero. -/
def exponent? : List Char → Option Int
  | [] => some 0
  | e :: rest =>
    if e == 'e' || e == 'E' then
      let (negative, rest) := match rest with
        | '-' :: r => (true, r)
        | '+' :: r => (false, r)
        | r => (false, r)
      match digits rest with
      | ([], _) => none
      | (ds, []) => some (if negative then -(numberOf ds : Int) else numberOf ds)
      | _ => none
    else none

/-- The number of digits, point and exponent. -/
def number? (negative : Bool) (cs : List Char) : Option Binary64 := do
  let (whole, rest) := digits cs
  let (fraction, rest) := fraction rest
  let e ← exponent? rest
  if whole.isEmpty && fraction.isEmpty then none
  else return .ofDecimal negative (numberOf (whole ++ fraction)) (e - fraction.length)

/-- The number that a word denotes; letters count alike in either case. -/
def word? (negative : Bool) (cs : List Char) : Option Binary64 :=
  let word := cs.map Char.toLower
  if word == "inf".toList || word == "infinity".toList then some (.infinite negative)
  else if word == "nan".toList then some .nan
  else none

/-- The number that a text denotes. -/
def read? (cs : List Char) : Option Binary64 :=
  let (negative, body) := match Text.trimPadding cs with
    | '-' :: rest => (true, rest)
    | '+' :: rest => (false, rest)
    | rest => (false, rest)
  match word? negative body with
  | some x => some x
  | none => number? negative body

end ForumMarkup.Decimal
