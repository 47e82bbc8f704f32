import ForumMarkup.CommandLine.Flag
/-
**Usage and help.**

The usage names the flags and the input on lines of limited width.  The help adds what each of them
is for, in a column of its own.

Main definitions:

* `ForumMarkup.Help.fill` — words laid out on lines of limited width;
* `ForumMarkup.Help.usage` — the usage;
* `ForumMarkup.Help.text` — the help.
-/

set_option autoImplicit false

namespace ForumMarkup.Help

/-- The width of lines. -/
def width : Nat := 78

/-- The column in which it is said what things are for. -/
def purposeColumn : Nat := 24

/-- A number of spaces. -/
def spaces (n : Nat) : String := String.ofList (List.replicate n ' ')

/-- Words laid out on lines of limited width: a word is put on the line if it fits there with a
space in front, and begins a new line if not.  A line has the words so far in reverse. -/
def fillFrom (limit : Nat) : (line : List String) → (used : Nat) → List String → List String
  | line, _, [] => if line.isEmpty then [] else [" ".intercalate line.reverse]
  | line, used, w :: ws =>
    if line.isEmpty then fillFrom limit [w] w.length ws
    else if used + 1 + w.length ≤ limit then fillFrom limit (w :: line) (used + 1 + w.length) ws
    else " ".intercalate line.reverse :: fillFrom limit [w] w.length ws

/-- Words laid out on lines of limited width. -/
def fill (limit : Nat) (ws : List String) : List String :=
  fillFrom limit [] 0 ws

/-- The words of a text. -/
def words (s : String) : List String :=
  s.splitOn " "

/-! ### Usage -/

/-- A flag in the usage. -/
def brief (f : Flag) : String :=
  match f.takesValue, f.spellings with
  | true, s :: _ => "[" ++ s ++ " " ++ f.placeholder ++ "]"
  | false, s :: _ =>
    match f with
    | .option _ => "[" ++ " | ".intercalate f.spellings ++ "]"
    | _ => "[" ++ s ++ "]"
  | _, [] => ""

/-- The name of the input in the usage. -/
def inputName : String := "input"

/-- What stands in front of the usage. -/
def lead : String := "usage: " ++ programName ++ " "

/-- The usage. -/
def usage : String :=
  let limit := width - lead.length
  let lines := fill limit (Flag.all.map brief) ++ [inputName]
  lead ++ ("\n" ++ spaces lead.length).intercalate lines ++ "\n"

/-! ### Help -/

/-- A flag with its spellings and values, as it is explained. -/
def full (f : Flag) : String :=
  ", ".intercalate (f.spellings.map fun s =>
    if f.takesValue then s ++ " " ++ f.placeholder else s)

/-- What something is for, in its column.  A name that is too long has a line to itself. -/
def entry (name purpose : String) : String :=
  let name := "  " ++ name
  let lines := fill (width - purposeColumn) (words purpose)
  let body := ("\n" ++ spaces purposeColumn).intercalate lines
  if name.length + 2 ≤ purposeColumn then
    name ++ spaces (purposeColumn - name.length) ++ body ++ "\n"
  else name ++ "\n" ++ spaces purposeColumn ++ body ++ "\n"

/-- A heading with entries below it. -/
def listing (heading : String) (entries : List String) : String :=
  heading ++ ":\n" ++ String.join entries

/-- The entries of a group of flags. -/
def groupSection (g : FlagGroup) : String :=
  listing g.heading
    ((Flag.all.filter fun f => f.group = g).map fun f => entry (full f) f.purpose)

/-- What the program is for. -/
def description : String :=
  "Transcode an Org document tree (JSON) into BBCode forum markup."

/-- The help. -/
def text : String :=
  "\n".intercalate
    [usage, description ++ "\n",
      listing "positional arguments"
        [entry inputName "JSON document tree, or '-' to read from stdin"],
      groupSection .general, groupSection .rendering, groupSection .logging]

end ForumMarkup.Help
