import ForumMarkup.Config.Numeral
import ForumMarkup.Text.Digit
import ForumMarkup.Value.Setting
/-
**Keys and scalars of TOML.**

A scalar is a text in one of four kinds of quotes, a number, or a time.  A time is a day, a time of
day, or both; then it may say how far its clock is ahead of universal time.  Keys have parts between
points.  A decimal integer must not have too many digits.

Main definitions:

* `ForumMarkup.Toml.Fault` — the reasons why a text is not read;
* `ForumMarkup.Toml.text` — a text;
* `ForumMarkup.Toml.key` — a key;
* `ForumMarkup.Toml.number` — a number;
* `ForumMarkup.Toml.time?` — a time.
-/

set_option autoImplicit false

namespace ForumMarkup.Toml

open Numeral

/-- A key with the keys of the tables that it leads through. -/
abbrev Key := List String

/-! ### Faults -/

/-- The reasons why a text is not read. -/
inductive Fault
  | malformed
  /-- An integer has more digits than are taken. -/
  | integerTooLong
deriving DecidableEq, Repr

/-- What a reading gives, or a malformed text. -/
def wellFormed {α : Type} : Option α → Except Fault α
  | some a => .ok a
  | none => .error .malformed

/-! ### Between tokens -/

/-- The blanks between tokens. -/
def isGap (c : Char) : Bool := c == ' ' || c == '\t'

/-- The blanks between the items of an array. -/
def isWideGap (c : Char) : Bool := isGap c || c == '\n'

/-- The control characters. -/
def isControl (c : Char) : Bool := c.toNat < 32 || c.toNat == 127

/-- The text without the blanks in front. -/
def skipGap (cs : List Char) : List Char := cs.dropWhile isGap

/-- The text after a comment, if one is in front. -/
def skipComment : List Char → Option (List Char)
  | '#' :: rest =>
    let (body, after) := rest.span fun c => c != '\n'
    if body.any fun c => isControl c && c != '\t' then none else some after
  | cs => some cs

/-- The text without blanks, line ends and comments in front. -/
def skipWide : (fuel : Nat) → List Char → Option (List Char)
  | 0, _ => none
  | fuel + 1, cs =>
    match cs.dropWhile isWideGap with
    | '#' :: rest => do
      let after ← skipComment ('#' :: rest)
      skipWide fuel after
    | cs => some cs

/-! ### Texts -/

/-- The contents of a literal text on one line, and what follows its quote. -/
def literalLine : List Char → Option (List Char × List Char)
  | [] => none
  | c :: rest =>
    if c == '\x27' then some ([], rest)
    else if isControl c && c != '\t' then none
    else do
      let (cs, r) ← literalLine rest
      return (c :: cs, r)

/-- The contents of a literal text on several lines, and what follows its three quotes. -/
def literalLines : List Char → Option (List Char × List Char)
  | [] => none
  | '\x27' :: '\x27' :: '\x27' :: rest => some ([], rest)
  | c :: rest =>
    if isControl c && c != '\t' && c != '\n' then none
    else do
      let (cs, r) ← literalLines rest
      return (c :: cs, r)

/-- The number that hexadecimal digits denote. -/
def hexNumber? (cs : List Char) : Option Nat :=
  cs.foldlM (fun n c => (Text.hexValue? c).map fun d => n * 16 + d) 0

/-- The character with a code point of a given number of hexadecimal digits, and what follows. -/
def codePoint (width : Nat) (cs : List Char) : Option (List Char × List Char) := do
  let digits := cs.take width
  if digits.length < width then none
  else
    let n ← hexNumber? digits
    if n < 0xD800 ∨ (0xE000 ≤ n ∧ n < 0x110000) then some ([Char.ofNat n], cs.drop width) else none

/-- What the text after a backslash stands for, and what follows it.  On several lines a backslash
at the end of a line takes the blanks after it away. -/
def escape (many : Bool) : List Char → Option (List Char × List Char)
  | [] => none
  | c :: rest =>
    if many && isWideGap c then
      match skipGap (c :: rest) with
      | [] => some ([], [])
      | '\n' :: after => some ([], after.dropWhile isWideGap)
      | _ => none
    else
      match c with
      | 'b' => some (['\x08'], rest)
      | 't' => some (['\t'], rest)
      | 'n' => some (['\n'], rest)
      | 'f' => some (['\x0c'], rest)
      | 'r' => some (['\r'], rest)
      | '\x22' => some (['\x22'], rest)
      | '\\' => some (['\\'], rest)
      | 'u' => codePoint 4 rest
      | 'U' => codePoint 8 rest
      | _ => none

/-- The contents of a basic text, and what follows its quote or its three quotes. -/
def basic (many : Bool) : (fuel : Nat) → List Char → Option (List Char × List Char)
  | 0, _ => none
  | _ + 1, [] => none
  | fuel + 1, c :: rest =>
    if c == '\x22' then
      if !many then some ([], rest)
      else match rest with
        | '\x22' :: '\x22' :: after => some ([], after)
        | rest => do
          let (cs, r) ← basic many fuel rest
          return (c :: cs, r)
    else if c == '\\' then do
      let (es, after) ← escape many rest
      let (cs, r) ← basic many fuel after
      return (es ++ cs, r)
    else if isControl c && c != '\t' && !(many && c == '\n') then none
    else do
      let (cs, r) ← basic many fuel rest
      return (c :: cs, r)

/-- Up to two more quotes belong to a text that three quotes end. -/
def moreQuotes (quote : Char) (cs : List Char) : List Char → List Char × List Char
  | a :: b :: rest =>
    if a == quote then
      if b == quote then (cs ++ [quote, quote], rest) else (cs ++ [quote], b :: rest)
    else (cs, a :: b :: rest)
  | [a] => if a == quote then (cs ++ [quote], []) else (cs, [a])
  | [] => (cs, [])

/-- The text without a line end in front. -/
def dropLineEnd : List Char → List Char
  | '\n' :: rest => rest
  | cs => cs

/-- A text of any form, and what follows it. -/
def text (cs : List Char) : Option (String × List Char) :=
  match cs with
  | '\x22' :: '\x22' :: '\x22' :: rest => do
    let body := dropLineEnd rest
    let (cs, r) ← basic true (body.length + 1) body
    let (cs, r) := moreQuotes '\x22' cs r
    return (String.ofList cs, r)
  | '\x22' :: rest => do
    let (cs, r) ← basic false (rest.length + 1) rest
    return (String.ofList cs, r)
  | '\x27' :: '\x27' :: '\x27' :: rest => do
    let (cs, r) ← literalLines (dropLineEnd rest)
    let (cs, r) := moreQuotes '\x27' cs r
    return (String.ofList cs, r)
  | '\x27' :: rest => do
    let (cs, r) ← literalLine rest
    return (String.ofList cs, r)
  | _ => none

/-! ### Keys -/

/-- The characters of a bare key. -/
def isBare (c : Char) : Bool :=
  let n := c.toNat
  (48 ≤ n && n ≤ 57) || (65 ≤ n && n ≤ 90) || (97 ≤ n && n ≤ 122) || c == '-' || c == '_'

/-- One part of a key, and what follows it.  A quoted part takes one line. -/
def keyPart : List Char → Option (String × List Char)
  | [] => none
  | c :: rest =>
    if isBare c then
      let (name, r) := (c :: rest).span isBare
      some (String.ofList name, r)
    else if c == '\x27' then (literalLine rest).map fun (cs, r) => (String.ofList cs, r)
    else if c == '\x22' then
      (basic false (rest.length + 1) rest).map fun (cs, r) => (String.ofList cs, r)
    else none

/-- A key, and what follows it and the blanks after it. -/
def key : (fuel : Nat) → List Char → Option (Key × List Char)
  | 0, _ => none
  | fuel + 1, cs => do
    let (part, r) ← keyPart cs
    match skipGap r with
    | '.' :: r => do
      let (parts, r) ← key fuel (skipGap r)
      return (part :: parts, r)
    | r => return ([part], r)

/-! ### Numbers -/

/-- The digits after the first one, with single low lines between them, and what follows. -/
def moreDigits (isDigit : Char → Bool) : List Char → List Char × List Char
  | '_' :: c :: rest =>
    if isDigit c then
      let (ds, r) := moreDigits isDigit rest
      (c :: ds, r)
    else ([], '_' :: c :: rest)
  | c :: rest =>
    if isDigit c then
      let (ds, r) := moreDigits isDigit rest
      (c :: ds, r)
    else ([], c :: rest)
  | [] => ([], [])

/-- Digits with single low lines between them, and what follows. -/
def digits? (isDigit : Char → Bool) : List Char → Option (List Char × List Char)
  | c :: rest =>
    if isDigit c then
      let (ds, r) := moreDigits isDigit rest
      some (c :: ds, r)
    else none
  | [] => none

/-- A whole number in another base, and what follows. -/
def based? : List Char → Option (Nat × List Char)
  | '0' :: letter :: rest => do
    let base ← match letter with
      | 'x' => some 16
      | 'o' => some 8
      | 'b' => some 2
      | _ => none
    let (ds, r) ← digits? (isDigitOf base) rest
    return (numberOf base ds, r)
  | _ => none

/-- The digits of a whole decimal number: a zero, or digits that begin with another digit. -/
def whole? : List Char → Option (List Char × List Char)
  | '0' :: rest => some (['0'], rest)
  | cs => digits? isDecimal cs

/-- The digits of a fraction, if one is in front. -/
def fraction : List Char → List Char × List Char
  | '.' :: rest =>
    match digits? isDecimal rest with
    | some (ds, r) => (ds, r)
    | none => ([], '.' :: rest)
  | cs => ([], cs)

/-- The exponent, if one is in front. -/
def exponent? : List Char → Option (Int × List Char)
  | e :: rest =>
    if e == 'e' || e == 'E' then do
      let (negative, rest) := sign rest
      let (ds, r) ← digits? isDecimal rest
      return (signed negative (numberOf 10 ds), r)
    else none
  | [] => none

/-- The integer of a sign and decimal digits. -/
def integer (negative : Bool) (digits : List Char) : Except Fault Setting :=
  if Text.maxIntegerDigits < digits.length then .error .integerTooLong
  else .ok (.int (signed negative (numberOf 10 digits)))

/-- A decimal number, and what follows it. -/
def decimal? (cs : List Char) : Option (Except Fault Setting × List Char) := do
  let (negative, body) := sign cs
  let (ds, r) ← whole? body
  let (fs, r) := fraction r
  let places : Int := fs.length
  match exponent? r with
  | some (e, r) =>
    return (.ok (.float (.ofDecimal negative (numberOf 10 (ds ++ fs)) (e - places))), r)
  | none =>
    if fs.isEmpty then return (integer negative ds, r)
    else return (.ok (.float (.ofDecimal negative (numberOf 10 (ds ++ fs)) (-places))), r)

/-- The words for numbers that are not finite, and what follows. -/
def word? (cs : List Char) : Option (Setting × List Char) :=
  let (negative, body) := sign cs
  match body with
  | 'i' :: 'n' :: 'f' :: r => some (.float (.infinite negative), r)
  | 'n' :: 'a' :: 'n' :: r => some (.float .nan, r)
  | _ => none

/-- A number of any form, and what follows it. -/
def number (cs : List Char) : Except Fault (Setting × List Char) :=
  match based? cs with
  | some (n, r) => .ok (.int n, r)
  | none =>
    match decimal? cs with
    | some (found, r) => found.map fun v => (v, r)
    | none => wellFormed (word? cs)

/-! ### Times -/

/-- The number of two digits in front that lies between bounds, and what follows. -/
def bounded? (least greatest : Nat) (cs : List Char) : Option (Nat × List Char) := do
  let (n, rest) ← two? cs
  if least ≤ n ∧ n ≤ greatest then some (n, rest) else none

/-- The microseconds of a fraction of a second, if one is in front, and what follows. -/
def secondFraction : List Char → Nat × List Char
  | '.' :: c :: rest =>
    if isDecimal c then
      let (ds, r) := (c :: rest).span isDecimal
      (microseconds ds, r)
    else (0, '.' :: c :: rest)
  | cs => (0, cs)

/-- A time of day, and what follows it. -/
def clock? (cs : List Char) : Option (Clock × List Char) := do
  let (hour, rest) ← bounded? 0 23 cs
  let (minute, rest) ← bounded? 0 59 (← after? ':' rest)
  let (second, rest) ← bounded? 0 59 (← after? ':' rest)
  let (micro, rest) := secondFraction rest
  return (⟨hour, minute, second, micro⟩, rest)

/-- The hours and minutes of an offset, counted in minutes, and what follows. -/
def offset? (cs : List Char) : Option (Nat × List Char) := do
  let (hours, rest) ← bounded? 0 23 cs
  let (minutes, rest) ← bounded? 0 59 (← after? ':' rest)
  return (hours * 60 + minutes, rest)

/-- How far a clock is ahead of universal time, if that is said in front, and what follows. -/
def ahead : List Char → Option Int × List Char
  | [] => (none, [])
  | c :: rest =>
    if c == 'Z' || c == 'z' then (some 0, rest)
    else if c == '+' || c == '-' then
      match offset? rest with
      | some (minutes, r) => (some (signed (c == '-') minutes), r)
      | none => (none, c :: rest)
    else (none, c :: rest)

/-- The year, the month and the day in front, and what follows. -/
def dayForm? : List Char → Option ((Nat × Nat × Nat) × List Char)
  | a :: b :: c :: d :: rest => do
    if [a, b, c, d].all isDecimal then
      let (month, rest) ← bounded? 1 12 (← after? '-' rest)
      let (day, rest) ← bounded? 1 31 (← after? '-' rest)
      return ((numberOf 10 [a, b, c, d], month, day), rest)
    else none
  | _ => none

/-- The time of day behind a day, if there is one, and what follows. -/
def clockBehind? : List Char → Option (Clock × List Char)
  | c :: rest => if c == 'T' || c == 't' || c == ' ' then clock? rest else none
  | [] => none

/-- A time, and what follows it: `none` for another form, and no setting for a day that is not in
the calendar. -/
def time? (cs : List Char) : Option (Option Setting × List Char) :=
  match dayForm? cs with
  | none => (clock? cs).map fun (clock, r) => (some (.clock clock), r)
  | some ((year, month, day), rest) =>
    let day? := Day.of? year month day
    match clockBehind? rest with
    | none => some (day?.map .day, rest)
    | some (clock, r) =>
      let (ahead?, r) := ahead r
      some (day?.map fun day => .moment ⟨day, clock, ahead?⟩, r)

end ForumMarkup.Toml
