/-
**Removing common indentation.**

An indented passage keeps its inner layout when the indentation that all of its lines share is taken
away.  Lines of spaces and tabs only count as empty: they lose their contents and do not limit the
margin.  Lines end at a line feed and nowhere else.

Main definitions:

* `ForumMarkup.Text.lines`, `ForumMarkup.Text.unlines` — a text as the list of its lines, and back;
* `ForumMarkup.Text.margin` — the longest indentation that all lines with contents share;
* `ForumMarkup.Text.dedent` — the text without its margin.
-/

set_option autoImplicit false

namespace ForumMarkup.Text

/-- The lines of a text.  There is one more of them than there are line feeds. -/
def lines : List Char → List (List Char)
  | [] => [[]]
  | c :: rest =>
    if c == '\n' then [] :: lines rest
    else match lines rest with
      | [] => [[c]]
      | line :: others => (c :: line) :: others

/-- Lines joined by line feeds. -/
def unlines : List (List Char) → List Char
  | [] => []
  | [line] => line
  | line :: others => line ++ '\n' :: unlines others

/-- The characters that indentation consists of. -/
def isIndent (c : Char) : Bool :=
  c == ' ' || c == '\t'

/-- A line of indentation only is emptied. -/
def emptied (line : List Char) : List Char :=
  if line.all isIndent then [] else line

/-- The longest text that both arguments begin with. -/
def commonStart : List Char → List Char → List Char
  | a :: as, b :: bs => if a == b then a :: commonStart as bs else []
  | _, _ => []

/-- The indentation shared by all lines with contents; no line has any when there is none. -/
def margin (ls : List (List Char)) : List Char :=
  match (ls.filter fun l => !l.isEmpty).map fun l => l.takeWhile isIndent with
  | [] => []
  | first :: others => others.foldl commonStart first

/-- A text without the indentation that its lines share. -/
def dedentChars (cs : List Char) : List Char :=
  let ls := (lines cs).map emptied
  let m := margin ls
  unlines (ls.map fun l => if m.isPrefixOf l then l.drop m.length else l)

/-- A string without the indentation that its lines share. -/
def dedent (s : String) : String :=
  String.ofList (dedentChars s.toList)

end ForumMarkup.Text
