/-
**Decimal digits and the integers written with them.**

An integer may be written with the decimal digits of any script, with single low lines between its
digits, with a sign and with blank space around it.  The module reads that notation.  Integers with
more digits than a limit are neither read nor shown.

Main definitions:

* `ForumMarkup.Text.digitValue?` — the value of a decimal digit of any script (Unicode 14.0,
  general category `Nd`);
* `ForumMarkup.Text.maxIntegerDigits`, `ForumMarkup.Text.digitLimit?` — the number of digits, as
  the limit that holds unless another one, or none, is set;
* `ForumMarkup.Text.canShow` — whether an integer can be shown under a limit;
* `ForumMarkup.Text.readInteger?` — the integer that a text denotes, if it denotes one.
-/

set_option autoImplicit false

namespace ForumMarkup.Text

/-- The code points of the digits zero.  The other nine digits of a script follow its zero. -/
def digitZeros : List Nat :=
  [ 48, 1632, 1776, 1984, 2406, 2534, 2662, 2790, 2918, 3046, 3174, 3302, 3430, 3558, 3664, 3792,
    3872, 4160, 4240, 6112, 6160, 6470, 6608, 6784, 6800, 6992, 7088, 7232, 7248, 42528, 43216,
    43264, 43472, 43504, 43600, 44016, 65296, 66720, 68912, 69734, 69872, 69942, 70096, 70384,
    70736, 70864, 71248, 71360, 71472, 71904, 72016, 72784, 73040, 73120, 92768, 92864, 93008,
    120782, 120792, 120802, 120812, 120822, 123200, 123632, 125264, 130032 ]

/-- The value of a decimal digit, whatever its script. -/
def digitValue? (c : Char) : Option Nat :=
  (digitZeros.find? fun z => z ≤ c.toNat && c.toNat ≤ z + 9).map fun z => c.toNat - z

/-- The blank characters that may surround a number: the ASCII layout characters, and beyond ASCII
every blank character. -/
def isNumberPadding (c : Char) : Bool :=
  if c.toNat < 128 then c.toNat == 32 || (9 ≤ c.toNat && c.toNat ≤ 13)
  else c.toNat == 0x85 || c.toNat == 0xA0 || c.toNat == 0x1680 ||
    (0x2000 ≤ c.toNat && c.toNat ≤ 0x200A) || c.toNat == 0x2028 || c.toNat == 0x2029 ||
    c.toNat == 0x202F || c.toNat == 0x205F || c.toNat == 0x3000

/-- A text without the padding at its ends. -/
def trimPadding (cs : List Char) : List Char :=
  ((cs.dropWhile isNumberPadding).reverse.dropWhile isNumberPadding).reverse

/-- The number that a sequence of digits denotes, read after the number `acc` of the digits before.
A low line has to stand between two digits. -/
def readDigits? (acc : Nat) : List Char → Option Nat
  | [] => none
  | [c] => (digitValue? c).map fun d => acc * 10 + d
  | c :: '_' :: rest => do readDigits? (acc * 10 + (← digitValue? c)) rest
  | c :: rest => do readDigits? (acc * 10 + (← digitValue? c)) rest

/-- The most digits with which an integer is read from a text or shown in one. -/
def maxIntegerDigits : Nat := 4300

/-- The limit to the digits of an integer. -/
def digitLimit? : Option Nat := some maxIntegerDigits

/-- Whether an integer has few enough digits to be shown. -/
def canShow (n : Int) (limit? : Option Nat := digitLimit?) : Bool :=
  limit?.all fun limit => (Nat.toDigits 10 n.natAbs).length ≤ limit

/-- The integer that a text denotes: padding, an optional sign, digits, padding. -/
def readInteger? (cs : List Char) : Option Int :=
  let inner := trimPadding cs
  if maxIntegerDigits < (inner.filter fun c => (digitValue? c).isSome).length then none
  else match inner with
    | '-' :: rest => (readDigits? 0 rest).map fun n => -(n : Int)
    | '+' :: rest => (readDigits? 0 rest).map fun n => (n : Int)
    | rest => (readDigits? 0 rest).map fun n => (n : Int)

end ForumMarkup.Text
