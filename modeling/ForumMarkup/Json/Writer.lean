import ForumMarkup.Number.Machine
import ForumMarkup.Value.Basic
/-
**Writing JSON.**

Text is written with the fewest escapes that JSON allows, other characters stand for themselves, and
numbers have their shortest form.  Without an indent a value takes one line, with a space after each
comma and colon; with an indent every item and entry takes a line of its own, indented by its depth.
Empty lists and objects always take two characters.  In place of a surrogate that stands alone the
replacement character is written.

Main definitions:

* `ForumMarkup.Json.Layout`, `ForumMarkup.Json.Layout.fits` — one line, or lines indented by a
  number of spaces, which has to fit into a machine word;
* `ForumMarkup.Json.writeText` — a quoted text;
* `ForumMarkup.Json.write` — a value in a layout.
-/

set_option autoImplicit false

namespace ForumMarkup.Json

/-- How a value is laid out.  An indent below zero counts as zero. -/
inductive Layout
  | oneLine
  | indented (width : Int)
deriving DecidableEq, Repr

/-- Whether lines can be laid out: the indent has to fit into a machine word. -/
def Layout.fits : Layout → Bool
  | .oneLine => true
  | .indented width => inMachineRange width

/-- How one character of a text is written. -/
def escapeChar (c : Char) : List Char :=
  if c == '\x22' then ['\\', '\x22']
  else if c == '\\' then ['\\', '\\']
  else if c == '\n' then ['\\', 'n']
  else if c == '\r' then ['\\', 'r']
  else if c == '\t' then ['\\', 't']
  else if c == '\x08' then ['\\', 'b']
  else if c == '\x0c' then ['\\', 'f']
  else if c.toNat < 0x20 then ['\\', 'u'] ++ Text.lowerHex 4 c.toNat
  else [c]

/-- A text between quotes. -/
def writeText (s : String) : List Char :=
  '\x22' :: s.toList.flatMap escapeChar ++ ['\x22']

/-- The text of a floating-point number, with words for those that are no finite numbers. -/
def writeFloat : Binary64 → String
  | .nan => "NaN"
  | .infinite negative => if negative then "-Infinity" else "Infinity"
  | x => x.text

/-- The start of a line at a depth. -/
def lineStart (layout : Layout) (depth : Nat) : List Char :=
  match layout with
  | .oneLine => []
  | .indented width => '\n' :: List.replicate (width.toNat * depth) ' '

/-- What stands between two items at a depth. -/
def separator (layout : Layout) (depth : Nat) : List Char :=
  match layout with
  | .oneLine => [',', ' ']
  | layout => ',' :: lineStart layout depth

mutual
/-- The characters of a value whose surroundings have a depth, in front of other characters. -/
def writeOnto (layout : Layout) (depth : Nat) : Value → List Char → List Char
  | .null, rest => 'n' :: 'u' :: 'l' :: 'l' :: rest
  | .bool true, rest => 't' :: 'r' :: 'u' :: 'e' :: rest
  | .bool false, rest => 'f' :: 'a' :: 'l' :: 's' :: 'e' :: rest
  | .int n, rest => (toString n).toList ++ rest
  | .float x, rest => (writeFloat x).toList ++ rest
  | .text s, rest => writeText s ++ rest
  | .illFormed t, rest => writeText t.image ++ rest
  | .list [], rest => '[' :: ']' :: rest
  | .list (v :: vs), rest =>
    '[' :: (lineStart layout (depth + 1) ++ writeOnto layout (depth + 1) v
      (writeItems layout depth vs rest))
  | .object [], rest => '\x7b' :: '\x7d' :: rest
  | .object ((k, v) :: es), rest =>
    '\x7b' :: (lineStart layout (depth + 1) ++ (writeText k ++ ':' :: ' ' ::
      writeOnto layout (depth + 1) v (writeEntries layout depth es rest)))
/-- The characters of the items after the first one, and of the end of their list. -/
def writeItems (layout : Layout) (depth : Nat) : List Value → List Char → List Char
  | [], rest => lineStart layout depth ++ ']' :: rest
  | v :: vs, rest =>
    separator layout (depth + 1) ++ writeOnto layout (depth + 1) v (writeItems layout depth vs rest)
/-- The characters of the entries after the first one, and of the end of their object. -/
def writeEntries (layout : Layout) (depth : Nat) : List (String × Value) → List Char → List Char
  | [], rest => lineStart layout depth ++ '\x7d' :: rest
  | (k, v) :: es, rest =>
    separator layout (depth + 1) ++ (writeText k ++ ':' :: ' ' ::
      writeOnto layout (depth + 1) v (writeEntries layout depth es rest))
end

/-- A value as JSON text. -/
def write (layout : Layout) (v : Value) : String :=
  String.ofList (writeOnto layout 0 v [])

end ForumMarkup.Json
