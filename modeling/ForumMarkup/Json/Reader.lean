import ForumMarkup.Json.Failure
import ForumMarkup.Text.Percent
import ForumMarkup.Value.Basic
/-
**Reading JSON.**

The reader takes a list of characters apart from the left.  Beyond the grammar of JSON it accepts
the words `NaN`, `Infinity` and `-Infinity`.  A name that an object repeats keeps its first place
and its last value.  Escaped surrogates in order make one character; a surrogate that stands alone
stays in the text of a value, while in the name of an entry the replacement character takes its
place.  The reader may be given a limit to the digits of an integer.

Main definitions:

* `ForumMarkup.Json.textBody` — the rest of a text after its opening quote;
* `ForumMarkup.Json.number` — a number;
* `ForumMarkup.Json.value` — a value, with a bound on the number of steps;
* `ForumMarkup.Json.whole` — the value that a whole text denotes, or the failure;
* `ForumMarkup.Json.read` — the same for a text that may begin with a byte order mark.
-/

set_option autoImplicit false

namespace ForumMarkup.Json

/-- A problem, and the number of characters from its place to the end of the source. -/
abbrev Trouble := Problem × Nat

/-- The characters between tokens. -/
def isGap (c : Char) : Bool :=
  c == ' ' || c == '\t' || c == '\n' || c == '\r'

/-- The text without the gap in front. -/
def skipGap (cs : List Char) : List Char :=
  cs.dropWhile isGap

/-! ### Text -/

/-- The number that four hexadecimal digits denote. -/
def hexQuad? (a b c d : Char) : Option Nat := do
  let a ← Text.hexValue? a
  let b ← Text.hexValue? b
  let c ← Text.hexValue? c
  let d ← Text.hexValue? d
  return ((a * 16 + b) * 16 + c) * 16 + d

/-- The character that an escape of two characters denotes. -/
def shortEscape? : Char → Option Char
  | '\x22' => some '\x22'
  | '\\' => some '\\'
  | '/' => some '/'
  | 'b' => some '\x08'
  | 'f' => some '\x0c'
  | 'n' => some '\n'
  | 'r' => some '\r'
  | 't' => some '\t'
  | _ => none

/-- The code points of a text and what follows its closing quote.  The argument `opening` is the
source from the opening quote on. -/
def textBody (opening : List Char) : List Char → Except Trouble (List Text.Point × List Char)
  | [] => .error (.unterminatedText, opening.length)
  | c :: rest =>
    if c == '\x22' then .ok ([], rest)
    else if c == '\\' then
      match rest with
      | [] => .error (.unterminatedText, opening.length)
      | 'u' :: h₁ :: h₂ :: h₃ :: h₄ :: next :: after =>
        match hexQuad? h₁ h₂ h₃ h₄ with
        | none => .error (.badUnicodeEscape, after.length + 6)
        | some u =>
          -- a second escape that can complete a pair has a character behind it
          match next, after with
          | '\\', 'u' :: l₁ :: l₂ :: l₃ :: l₄ :: next' :: after' =>
            if 0xD800 ≤ u ∧ u < 0xDC00 then
              match hexQuad? l₁ l₂ l₃ l₄ with
              | none => .error (.badUnicodeEscape, after'.length + 6)
              | some v =>
                if 0xDC00 ≤ v ∧ v < 0xE000 then do
                  let (ps, r) ← textBody opening (next' :: after')
                  return (.char (Char.ofNat (0x10000 + (u - 0xD800) * 1024 + (v - 0xDC00))) :: ps,
                    r)
                else do
                  let (ps, r) ← textBody opening
                    ('\\' :: 'u' :: l₁ :: l₂ :: l₃ :: l₄ :: next' :: after')
                  return (.ofNat u :: ps, r)
            else do
              let (ps, r) ← textBody opening
                ('\\' :: 'u' :: l₁ :: l₂ :: l₃ :: l₄ :: next' :: after')
              return (.ofNat u :: ps, r)
          | next, after => do
            let (ps, r) ← textBody opening (next :: after)
            return (.ofNat u :: ps, r)
      | 'u' :: few => .error (.badUnicodeEscape, few.length + 1)
      | e :: after =>
        match shortEscape? e with
        | none => .error (.badEscape, after.length + 2)
        | some e => do
          let (ps, r) ← textBody opening after
          return (.char e :: ps, r)
    else if c.toNat < 0x20 then .error (.controlCharacter, rest.length + 1)
    else do
      let (ps, r) ← textBody opening rest
      return (.char c :: ps, r)

/-! ### Numbers -/

/-- An ASCII digit. -/
def isDigit (c : Char) : Bool :=
  48 ≤ c.toNat && c.toNat ≤ 57

/-- The number that ASCII digits denote. -/
def digitsValue (cs : List Char) : Nat :=
  cs.foldl (fun n c => n * 10 + (c.toNat - 48)) 0

/-- The digits of a whole number and what follows them: a zero, or digits that begin with another
digit. -/
def wholeDigits? : List Char → Option (List Char × List Char)
  | '0' :: rest => some (['0'], rest)
  | c :: rest => if isDigit c then some ((c :: rest).span isDigit) else none
  | [] => none

/-- The digits of a fraction and what follows them, if a point and a digit are in front. -/
def fractionDigits? : List Char → Option (List Char × List Char)
  | '.' :: c :: rest => if isDigit c then some ((c :: rest).span isDigit) else none
  | _ => none

/-- An exponent and what follows it, if one is in front. -/
def exponent? : List Char → Option (Int × List Char)
  | e :: rest =>
    if e == 'e' || e == 'E' then
      let (negative, digits) := match rest with
        | '-' :: r => (true, r)
        | '+' :: r => (false, r)
        | r => (false, r)
      match digits.span isDigit with
      | ([], _) => none
      | (ds, after) =>
        let n : Int := digitsValue ds
        some (if negative then -n else n, after)
    else none
  | [] => none

/-- What is wrong with the digits of an integer: there may be too many. -/
def tooLong? (limit? : Option Nat) (digits : List Char) : Option Problem :=
  limit?.bind fun limit =>
    if limit < digits.length then some (.integerTooLong limit digits.length) else none

/-- A number and what follows it.  It is a whole number unless it has a fraction or an exponent. -/
def number (limit? : Option Nat) (cs : List Char) : Except Trouble (Value × List Char) :=
  let (negative, body) := match cs with
    | '-' :: rest => (true, rest)
    | _ => (false, cs)
  match wholeDigits? body with
  | none => .error (.valueExpected, cs.length)
  | some (whole, rest) =>
    let (fraction, rest₁) := (fractionDigits? rest).getD ([], rest)
    match exponent? rest₁ with
    | some (e, rest₂) =>
      .ok (.float (.ofDecimal negative (digitsValue (whole ++ fraction)) (e - fraction.length)),
        rest₂)
    | none =>
      if fraction.isEmpty then
        match tooLong? limit? whole with
        | some problem => .error (problem, cs.length)
        | none =>
          let n : Int := digitsValue whole
          .ok (.int (if negative then -n else n), rest₁)
      else
        .ok (.float (.ofDecimal negative (digitsValue (whole ++ fraction)) (-fraction.length)),
          rest₁)

/-! ### Values -/

mutual
/-- A value and what follows it. -/
def value (limit? : Option Nat) : (fuel : Nat) → List Char → Except Trouble (Value × List Char)
  | 0, cs => .error (.valueExpected, cs.length)
  | fuel + 1, cs =>
    match cs with
    | '\x22' :: rest => do
      let (points, r) ← textBody cs rest
      return (.ofPoints points, r)
    | '\x7b' :: rest =>
      match skipGap rest with
      | '\x7d' :: r => .ok (.object [], r)
      | rest => do
        let (entries, r) ← members limit? fuel [] rest
        return (.object entries, r)
    | '[' :: rest =>
      match skipGap rest with
      | ']' :: r => .ok (.list [], r)
      | rest => do
        let (items, r) ← elements limit? fuel rest
        return (.list items, r)
    | 'n' :: 'u' :: 'l' :: 'l' :: r => .ok (.null, r)
    | 't' :: 'r' :: 'u' :: 'e' :: r => .ok (.bool true, r)
    | 'f' :: 'a' :: 'l' :: 's' :: 'e' :: r => .ok (.bool false, r)
    | 'N' :: 'a' :: 'N' :: r => .ok (.float .nan, r)
    | 'I' :: 'n' :: 'f' :: 'i' :: 'n' :: 'i' :: 't' :: 'y' :: r =>
      .ok (.float (.infinite false), r)
    | '-' :: 'I' :: 'n' :: 'f' :: 'i' :: 'n' :: 'i' :: 't' :: 'y' :: r =>
      .ok (.float (.infinite true), r)
    | cs => number limit? cs
/-- The entries of an object from a name on, added to the entries before, and what follows the
closing brace. -/
def members (limit? : Option Nat) : (fuel : Nat) → List (String × Value) → List Char →
    Except Trouble (List (String × Value) × List Char)
  | 0, _, cs => .error (.nameExpected, cs.length)
  | fuel + 1, entries, cs =>
    match cs with
    | '\x22' :: rest => do
      let (name, r) ← textBody cs rest
      match skipGap r with
      | ':' :: r => do
        let (v, r) ← value limit? fuel (skipGap r)
        let entries := putEntry (Text.imageOf name) v entries
        match skipGap r with
        | '\x7d' :: r => .ok (entries, r)
        | ',' :: r => members limit? fuel entries (skipGap r)
        | r => .error (.commaExpected, r.length)
      | r => .error (.colonExpected, r.length)
    | cs => .error (.nameExpected, cs.length)
/-- The items of a list from a value on, and what follows the closing bracket. -/
def elements (limit? : Option Nat) : (fuel : Nat) → List Char →
    Except Trouble (List Value × List Char)
  | 0, cs => .error (.valueExpected, cs.length)
  | fuel + 1, cs => do
    let (v, r) ← value limit? fuel cs
    match skipGap r with
    | ']' :: r => .ok ([v], r)
    | ',' :: r => do
      let (vs, r) ← elements limit? fuel (skipGap r)
      return (v :: vs, r)
    | r => .error (.commaExpected, r.length)
end

/-- The value that a whole text denotes.  An opening bracket takes two steps, one for the list and
one for its first item. -/
def whole (limit? : Option Nat) (source : List Char) : Except Failure Value :=
  let located (t : Trouble) : Failure := .at t.1 source (source.length - t.2)
  match value limit? (2 * source.length + 2) (skipGap source) with
  | .error t => .error (located t)
  | .ok (v, rest) =>
    match skipGap rest with
    | [] => .ok v
    | rest => .error (located (.extraData, rest.length))

/-- The value that a whole text denotes.  A byte order mark in front is a problem of its own. -/
def read (limit? : Option Nat) (source : List Char) : Except Failure Value :=
  if source.head? == some '\uFEFF' then .error (.at .byteOrderMark source 0)
  else whole limit? source

end ForumMarkup.Json
