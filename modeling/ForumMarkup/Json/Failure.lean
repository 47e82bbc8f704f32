/-
**What is wrong with a JSON text.**

A text is refused at one place, for one reason.  The place is given as an offset in characters and
as a line and a column; only line feeds end lines.  A text may be refused although it is JSON: an
integer may have more digits than the reader takes.

Main definitions:

* `ForumMarkup.Json.Problem`, `ForumMarkup.Json.Problem.isMalformed` — the reasons;
* `ForumMarkup.Json.Failure` — a reason and a place;
* `ForumMarkup.Json.Failure.message` — the sentence shown to the user.
-/

set_option autoImplicit false

namespace ForumMarkup.Json

/-- The reasons for refusing a text. -/
inductive Problem
  | valueExpected
  | nameExpected
  | colonExpected
  | commaExpected
  | extraData
  | unterminatedText
  | controlCharacter
  | badEscape
  | badUnicodeEscape
  | byteOrderMark
  /-- An integer has more digits than are taken. -/
  | integerTooLong (limit digits : Nat)
deriving DecidableEq, Repr

/-- Whether a text that is refused for a reason is not JSON. -/
def Problem.isMalformed : Problem → Bool
  | .integerTooLong _ _ => false
  | _ => true

/-- The wording of a reason. -/
def Problem.wording : Problem → String
  | .valueExpected => "Expecting value"
  | .nameExpected => "Expecting property name enclosed in double quotes"
  | .colonExpected => "Expecting ':' delimiter"
  | .commaExpected => "Expecting ',' delimiter"
  | .extraData => "Extra data"
  | .unterminatedText => "Unterminated string starting at"
  | .controlCharacter => "Invalid control character at"
  | .badEscape => "Invalid \\escape"
  | .badUnicodeEscape => "Invalid \\uXXXX escape"
  | .byteOrderMark => "Unexpected UTF-8 BOM (decode using utf-8-sig)"
  | .integerTooLong limit digits =>
    "Exceeds the limit (" ++ toString limit ++
      " digits) for integer string conversion: value has " ++ toString digits ++
      " digits; use sys.set_int_max_str_digits() to increase the limit"

/-- A reason and the place where it shows.  Lines and columns count from one, offsets from zero. -/
structure Failure where
  problem : Problem
  line : Nat
  column : Nat
  offset : Nat
deriving DecidableEq, Repr

/-- The line and the column of the place after the given characters. -/
def position (before : List Char) : Nat × Nat :=
  (before.count '\n' + 1, (before.reverse.takeWhile fun c => c != '\n').length + 1)

/-- The failure at an offset of a source text. -/
def Failure.at (problem : Problem) (source : List Char) (offset : Nat) : Failure :=
  let (line, column) := position (source.take offset)
  { problem := problem, line := line, column := column, offset := offset }

/-- The place as it is shown to the user. -/
def Failure.place (f : Failure) : String :=
  "line " ++ toString f.line ++ " column " ++ toString f.column ++ " (char " ++
    toString f.offset ++ ")"

/-- The sentence shown to the user, with the place in a text that is not JSON. -/
def Failure.message (f : Failure) : String :=
  if f.problem.isMalformed then f.problem.wording ++ ": " ++ f.place else f.problem.wording

end ForumMarkup.Json
