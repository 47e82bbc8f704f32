import ForumMarkup.Number.Binary64
/-
**The shortest decimal text of a number.**

A number is written with the fewest significant digits that still read back as it; among decimals of
that length the one nearest to the number is taken, and of two equally near the one that ends in an
even digit.  Magnitudes from `10 ^ -4` up to but not including
`10 ^ 16` are written positionally, with at least one digit after the point; others with an exponent
of at least two digits and a sign.

Main definitions:

* `ForumMarkup.Binary64.shortestDigits` — the digits, and the place of the decimal point;
* `ForumMarkup.Binary64.text` — the text.
-/

set_option autoImplicit false

namespace ForumMarkup.Binary64

/-! ### Digits -/

/-- Four times the ends of the interval of reals that round to `m * 2 ^ e`, as multiples of `2 ^ e`.
The interval is shorter below a power of two. -/
def quarterBounds (m : Nat) (e : Int) : Nat × Nat :=
  if m = Nat.pow 2 52 ∧ minExponent < e then (4 * m - 1, 4 * m + 2) else (4 * m - 2, 4 * m + 2)

/-- Whether `a / b` lies between `low / den` and `high / den`, the ends included when `closed` is
set. -/
def between (closed : Bool) (low high den a b : Nat) : Bool :=
  if closed then low * b ≤ a * den && a * den ≤ high * b
  else low * b < a * den && a * den < high * b

/-- The number of decimal digits before the point of `num / den`: the least `k` with
`num / den < 10 ^ k`, found by correcting an estimate. -/
def pointPlace (num den : Nat) : Int :=
  let guess : Int := ((num.log2 : Int) - (den.log2 : Int) - 1) * 30103 / 100000
  let below (k : Int) : Bool :=
    if 0 ≤ k then num < den * Nat.pow 10 k.toNat else num * Nat.pow 10 (-k).toNat < den
  if below guess then guess
  else if below (guess + 1) then guess + 1
  else if below (guess + 2) then guess + 2
  else guess + 3

/-- Tries `count` digits, then more.  The value is `num / den`, the decimals that read back as it
lie between `low` and `high` over the same denominator, and its decimal point follows `place`
digits. -/
def searchDigits (closed : Bool) (num low high den : Nat) (place : Int) :
    (tries : Nat) → (count : Nat) → Nat × Int
  | 0, count => (num / den, (count : Int))
  | tries + 1, count =>
    let exponent := place - count
    -- `num / den` in units of `10 ^ exponent`
    let (a, b) :=
      if 0 ≤ exponent then (num, den * Nat.pow 10 exponent.toNat)
      else (num * Nat.pow 10 (-exponent).toNat, den)
    let d := a / b
    let inside (d : Nat) : Bool :=
      if 0 ≤ exponent then between closed low high den (d * Nat.pow 10 exponent.toNat) 1
      else between closed low high den d (Nat.pow 10 (-exponent).toNat)
    let nearer := 2 * (a % b) < b || (2 * (a % b) == b && d % 2 == 0)
    if inside d && (nearer || !inside (d + 1)) then (d, exponent)
    else if inside (d + 1) then (d + 1, exponent)
    else searchDigits closed num low high den place tries (count + 1)

/-- The shortest decimal that reads back as `m * 2 ^ e`, as an integer and a power of ten. -/
def shortestDigits (m : Nat) (e : Int) : Nat × Int :=
  let (low, high) := quarterBounds m e
  let up := Nat.pow 2 e.toNat
  let den := 4 * Nat.pow 2 (-e).toNat
  let num := 4 * m * up
  searchDigits (m % 2 == 0) num (low * up) (high * up) den (pointPlace num den) 17 1

/-! ### Text -/

/-- The decimal digits of a natural number without the zeros at its end, and the number of those
zeros. -/
def dropZeros : (fuel : Nat) → Nat → Nat × Nat
  | 0, n => (n, 0)
  | fuel + 1, n =>
    if n ≠ 0 ∧ n % 10 = 0 then
      let (r, k) := dropZeros fuel (n / 10)
      (r, k + 1)
    else (n, 0)

/-- The text of a positive magnitude with the given digits, whose decimal point follows `place` of
them. -/
def layOut (digits : List Char) (place : Int) : List Char :=
  if place ≤ -4 ∨ 16 < place then
    let shown := place - 1
    let exponent := (toString shown.natAbs).toList
    let padded := if exponent.length < 2 then '0' :: exponent else exponent
    let mantissa := match digits with
      | [] => ['0']
      | [d] => [d]
      | d :: ds => d :: '.' :: ds
    mantissa ++ ['e', if shown < 0 then '-' else '+'] ++ padded
  else if place ≤ 0 then
    ['0', '.'] ++ List.replicate (-place).toNat '0' ++ digits
  else
    let before := digits.take place.toNat
    let after := digits.drop place.toNat
    before ++ List.replicate (place.toNat - before.length) '0' ++
      '.' :: (if after.isEmpty then ['0'] else after)

/-- The shortest text that reads back as the number. -/
def text : Binary64 → String
  | .nan => "nan"
  | .infinite negative => if negative then "-inf" else "inf"
  | .finite negative m e =>
    let sign := if negative then ['-'] else []
    if m = 0 then String.ofList (sign ++ ['0', '.', '0'])
    else
      let (d, k) := shortestDigits m e
      let (d, zeros) := dropZeros 20 d
      let digits := (toString d).toList
      String.ofList (sign ++ layOut digits ((digits.length : Int) + zeros + k))

end ForumMarkup.Binary64
