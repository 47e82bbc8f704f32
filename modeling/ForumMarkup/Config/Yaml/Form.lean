import ForumMarkup.Config.Numeral
import ForumMarkup.Value.Calendar
/-
**The forms of plain scalars.**

A plain scalar is text unless its form says otherwise: words for truth values and null, whole
numbers in four bases, numbers with a point, groups of sixty between colons, and times.

Main definitions:

* `ForumMarkup.Yaml.isIntegerForm`, `ForumMarkup.Yaml.isFloatForm` — the forms of numbers;
* `ForumMarkup.Yaml.TimeForm`, `ForumMarkup.Yaml.timeForm?`, `ForumMarkup.Yaml.isTimeForm` — the
  form of times;
* `ForumMarkup.Yaml.boolForms`, `ForumMarkup.Yaml.nullForms` — the words.
-/

set_option autoImplicit false

namespace ForumMarkup.Yaml

open Numeral

/-! ### Groups of sixty -/

/-- The pieces of a text between colons. -/
def groups : List Char → List (List Char)
  | [] => [[]]
  | c :: cs =>
    if c == ':' then [] :: groups cs
    else match groups cs with
      | [] => [[c]]
      | g :: gs => (c :: g) :: gs

/-- A group after the first one: one digit, or two of which the first is below six. -/
def isGroup : List Char → Bool
  | [a] => isDecimal a
  | [a, b] => isDigitOf 6 a && isDecimal b
  | _ => false

/-! ### Numbers -/

/-- Whether a text has the form of a whole number. -/
def isIntegerForm (cs : List Char) : Bool :=
  match (sign cs).2 with
  | [] => false
  | '0' :: 'b' :: ds => !ds.isEmpty && ds.all (isDigitOrLine 2)
  | '0' :: 'x' :: ds => !ds.isEmpty && ds.all (isDigitOrLine 16)
  | '0' :: ds => ds.all (isDigitOrLine 8)
  | c :: rest =>
    isDecimal c && match groups (c :: rest) with
      | [] => false
      | first :: others => first.all (isDigitOrLine 10) && others.all isGroup

/-- Whether a text is an exponent or nothing; the sign of an exponent is never left out. -/
def isExponent : List Char → Bool
  | [] => true
  | e :: s :: ds =>
    (e == 'e' || e == 'E') && (s == '-' || s == '+') && !ds.isEmpty && ds.all isDecimal
  | _ => false

/-- The words for infinity behind a sign. -/
def infinityForms : List String := [".inf", ".Inf", ".INF"]

/-- The words for not-a-number. -/
def nanForms : List String := [".nan", ".NaN", ".NAN"]

/-- Whether a text has the form of a number with a point. -/
def isFloatForm (cs : List Char) : Bool :=
  let body := (sign cs).2
  if infinityForms.contains (String.ofList body) || nanForms.contains (String.ofList cs) then true
  else
    let (whole, rest) := body.span fun c => c != '.'
    match whole, rest with
    | _, [] => false
    | [], _ :: rest =>
      -- without digits in front of the point there is no sign
      let (fraction, rest) := rest.span (isDigitOrLine 10)
      body.length == cs.length && (fraction.head?.map isDecimal).getD false && isExponent rest
    | c :: _, _ :: rest =>
      let rest := rest.dropWhile (isDigitOrLine 10)
      isDecimal c && match groups whole with
        | [ds] => ds.all (isDigitOrLine 10) && isExponent rest
        | first :: others => rest.isEmpty && first.all (isDigitOrLine 10) && others.all isGroup
        | [] => false

/-! ### Times -/

/-- The numbers of a time.  A day may stand alone. -/
structure TimeForm where
  year : Nat
  month : Nat
  day : Nat
  /-- The hour, the minute, the second, the microsecond, and how many minutes the clock is ahead. -/
  clock? : Option (Nat × Nat × Nat × Nat × Option Int)

/-- One or two digits in front, and what follows. -/
def oneOrTwo? : List Char → Option (Nat × List Char)
  | a :: b :: rest =>
    if isDecimal a then
      if isDecimal b then some (numberOf 10 [a, b], rest) else some (numberOf 10 [a], b :: rest)
    else none
  | [a] => if isDecimal a then some (numberOf 10 [a], []) else none
  | [] => none

/-- The year, the month and the day in front, and what follows. -/
def dayForm? : List Char → Option (Nat × Nat × Nat × List Char)
  | a :: b :: c :: d :: rest => do
    if [a, b, c, d].all isDecimal then
      let (month, rest) ← oneOrTwo? (← after? '-' rest)
      let (day, rest) ← oneOrTwo? (← after? '-' rest)
      return (numberOf 10 [a, b, c, d], month, day, rest)
    else none
  | _ => none

/-- A blank between the parts of a time. -/
def isTimeGap (c : Char) : Bool := c == ' ' || c == '\t'

/-- How many minutes a clock is ahead, which takes up a text; it may be left out. -/
def zone? (cs : List Char) : Option (Option Int) :=
  match cs.dropWhile isTimeGap with
  | [] => if cs.isEmpty then some none else none
  | ['Z'] => some (some 0)
  | s :: rest =>
    if s == '+' || s == '-' then do
      let (hours, rest) ← oneOrTwo? rest
      let (minutes, rest) ← if rest.isEmpty then some (0, []) else two? (← after? ':' rest)
      if rest.isEmpty then return some (signed (s == '-') (hours * 60 + minutes)) else none
    else none

/-- The microseconds of a fraction of a second, and what follows; the fraction may be left out, and
so may its digits. -/
def secondFraction : List Char → Nat × List Char
  | '.' :: rest =>
    let (ds, rest) := rest.span isDecimal
    (microseconds ds, rest)
  | cs => (0, cs)

/-- What follows the mark between a day and a time of day: a letter, or blanks. -/
def afterDay? : List Char → Option (List Char)
  | c :: rest =>
    if c == 'T' || c == 't' then some rest
    else if isTimeGap c then some (rest.dropWhile isTimeGap)
    else none
  | [] => none

/-- The numbers of a time that takes up a text. -/
def timeForm? (cs : List Char) : Option TimeForm := do
  let (year, month, day, rest) ← dayForm? cs
  if rest.isEmpty then return ⟨year, month, day, none⟩
  else
    let (hour, rest) ← oneOrTwo? (← afterDay? rest)
    let (minute, rest) ← two? (← after? ':' rest)
    let (second, rest) ← two? (← after? ':' rest)
    let (micro, rest) := secondFraction rest
    let ahead? ← zone? rest
    return ⟨year, month, day, some (hour, minute, second, micro, ahead?)⟩

/-- Whether a text has the form of a time.  A day alone has two digits for the month and two for the
day of the month. -/
def isTimeForm (cs : List Char) : Bool :=
  match timeForm? cs with
  | none => false
  | some t => t.clock?.isSome || cs.length == 10

/-! ### Words -/

/-- The words for truth values. -/
def boolForms : List String :=
  ["yes", "Yes", "YES", "no", "No", "NO", "true", "True", "TRUE", "false", "False", "FALSE",
    "on", "On", "ON", "off", "Off", "OFF"]

/-- The words for null. -/
def nullForms : List String := ["", "~", "null", "Null", "NULL"]

end ForumMarkup.Yaml
