/-
**Double-precision numbers, exactly.**

A finite binary64 number is an integer below `2 ^ 53` times a power of two.  Holding it as these two
integers makes rounding, comparison and printing plain integer arithmetic.

Main definitions:

* `ForumMarkup.Binary64` — the numbers, with both infinities and one not-a-number;
* `ForumMarkup.Binary64.ofRatio` — the number nearest to a quotient of two naturals, ties to the
  even mantissa;
* `ForumMarkup.Binary64.ofDecimal` — the number nearest to `digits * 10 ^ exponent`;
* `ForumMarkup.Binary64.negate`, `ForumMarkup.Binary64.add`, `ForumMarkup.Binary64.mul` — the number
  with the other sign, sums and products;
* `ForumMarkup.Binary64.ofInt?` — the number nearest to an integer;
* `ForumMarkup.Binary64.truncate?`, `ForumMarkup.Binary64.toInt?` — the integer part of a finite
  number, and the integer that a number equals.
-/

set_option autoImplicit false

namespace ForumMarkup

/-- A binary64 number.  `finite negative mantissa exponent` is `mantissa * 2 ^ exponent` with the
given sign; its mantissa is at least `2 ^ 52` unless its exponent is the least one. -/
inductive Binary64
  | finite (negative : Bool) (mantissa : Nat) (exponent : Int)
  | infinite (negative : Bool)
  | nan
deriving DecidableEq, Repr, Inhabited

namespace Binary64

/-- The exponent of the numbers next to zero. -/
def minExponent : Int := -1074

/-- The exponent of the greatest finite numbers. -/
def maxExponent : Int := 971

/-- Zero with a sign. -/
def zero (negative : Bool) : Binary64 := .finite negative 0 minExponent

/-- The number one. -/
def one : Binary64 := .finite false (Nat.pow 2 52) (-52)

/-- A number with the other sign. -/
def negate : Binary64 → Binary64
  | .finite negative m e => .finite (!negative) m e
  | .infinite negative => .infinite (!negative)
  | .nan => .nan

/-! ### Rounding -/

/-- The natural number nearest to a quotient, the even one of two equally near. -/
def roundQuotient (num den : Nat) : Nat :=
  let q := num / den
  let r := num % den
  if 2 * r < den then q
  else if den < 2 * r then q + 1
  else if q % 2 = 0 then q else q + 1

/-- Numerator and denominator of `num / den / 2 ^ e`. -/
def scaled (num den : Nat) (e : Int) : Nat × Nat :=
  if 0 ≤ e then (num, den * Nat.pow 2 e.toNat) else (num * Nat.pow 2 (-e).toNat, den)

/-- The number nearest to `num / den`, for a positive denominator. -/
def ofRatio (negative : Bool) (num den : Nat) : Binary64 :=
  if num = 0 then zero negative
  else
    let guess : Int := max ((num.log2 : Int) - (den.log2 : Int) - 53) minExponent
    let (a, b) := scaled num den guess
    let e := if a / b < Nat.pow 2 53 then guess else guess + 1
    let (a, b) := scaled num den e
    let m := roundQuotient a b
    let (m, e) := if m = Nat.pow 2 53 then (Nat.pow 2 52, e + 1) else (m, e)
    if maxExponent < e then .infinite negative else .finite negative m e

/-- The number nearest to `digits * 10 ^ exponent`.  Magnitudes far outside the range of the format
are settled by their number of digits. -/
def ofDecimal (negative : Bool) (digits : Nat) (exponent : Int) : Binary64 :=
  if digits = 0 then zero negative
  else
    let magnitude : Int := (digits.log2 * 30103 / 100000 : Nat) + exponent
    if 400 < magnitude then .infinite negative
    else if magnitude < -400 then zero negative
    else if 0 ≤ exponent then ofRatio negative (digits * Nat.pow 10 exponent.toNat) 1
    else ofRatio negative digits (Nat.pow 10 (-exponent).toNat)

/-! ### Sums and products -/

/-- How many times `2 ^ minExponent` goes into `m * 2 ^ e`, which is a whole number of times for
every finite number. -/
def units (m : Nat) (e : Int) : Nat :=
  m * Nat.pow 2 (e - minExponent).toNat

/-- The number nearest to `n * 2 ^ minExponent`. -/
def ofUnits (negative : Bool) (n : Nat) : Binary64 :=
  ofRatio negative n (Nat.pow 2 (-minExponent).toNat)

/-- The number nearest to a sum.  Opposite infinities have no sum, and the sum of two zeros is
negative if both are. -/
def add : Binary64 → Binary64 → Binary64
  | .nan, _ => .nan
  | _, .nan => .nan
  | .infinite a, .infinite b => if a = b then .infinite a else .nan
  | .infinite a, _ => .infinite a
  | _, .infinite b => .infinite b
  | .finite a m e, .finite b n f =>
    let signed (negative : Bool) (k : Nat) : Int := if negative then -k else k
    let sum := signed a (units m e) + signed b (units n f)
    if sum = 0 then zero (a && b) else ofUnits (decide (sum < 0)) sum.natAbs

/-- The number nearest to a product.  An infinity and a zero have no product. -/
def mul : Binary64 → Binary64 → Binary64
  | .nan, _ => .nan
  | _, .nan => .nan
  | .infinite a, .infinite b => .infinite (a != b)
  | .infinite a, .finite b n _ => if n = 0 then .nan else .infinite (a != b)
  | .finite a m _, .infinite b => if m = 0 then .nan else .infinite (a != b)
  | .finite a m e, .finite b n f =>
    let (num, den) := scaled (m * n) 1 (-(e + f))
    ofRatio (a != b) num den

/-! ### Integers -/

/-- The number nearest to an integer, unless the integer is beyond the greatest finite number. -/
def ofInt? (n : Int) : Option Binary64 :=
  match ofRatio (decide (n < 0)) n.natAbs 1 with
  | .infinite _ => none
  | x => some x

/-- Whether a number is a zero of either sign. -/
def isZero : Binary64 → Bool
  | .finite _ m _ => m == 0
  | _ => false

/-- The integer part of a finite number. -/
def truncate? : Binary64 → Option Int
  | .finite negative m e =>
    let n : Nat := if 0 ≤ e then m * Nat.pow 2 e.toNat else m / Nat.pow 2 (-e).toNat
    some (if negative then -(n : Int) else n)
  | _ => none

/-- The integer that a number equals. -/
def toInt? : Binary64 → Option Int
  | .finite negative m e =>
    if 0 ≤ e ∨ m % Nat.pow 2 (-e).toNat = 0 then truncate? (.finite negative m e) else none
  | _ => none

end Binary64

end ForumMarkup
