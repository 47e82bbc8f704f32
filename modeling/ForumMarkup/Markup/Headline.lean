import ForumMarkup.Markup.Tag
import ForumMarkup.Markup.Unsupported
/-
**Headlines.**

Forum markup has no headings.  A headline is a bold, underlined line; a mark in front of its title
shows its level.  Level zero has no mark and belongs to the title over the footnotes.

Main definitions:

* `ForumMarkup.levelMark?` — the mark of a level;
* `ForumMarkup.headlineMark` — the mark of a level given as a value of any type;
* `ForumMarkup.formatHeadline` — a headline and the empty line after it.
-/

set_option autoImplicit false

namespace ForumMarkup

/-- The mark of a level.  There are six levels. -/
def levelMark? : Int → Option String
  | 0 => some ""
  | 1 => some "# "
  | 2 => some "== "
  | 3 => some "+++ "
  | 4 => some ":::: "
  | 5 => some "----- "
  | _ => none

/-- The mark of a level.  Truth values and floating-point numbers are no levels. -/
def headlineMark (level : Value) : Except Unsupported String :=
  match level with
  | .int n =>
    match levelMark? n with
    | some mark => .ok mark
    | none => .error (.headline level)
  | _ => .error (.headline level)

/-- A bold, underlined line and an empty line. -/
def headlineLine (mark title : String) : String :=
  Tag.bold.wrap (Tag.underline.wrap (mark ++ title)) ++ "\n\n"

/-- A headline of a level. -/
def formatHeadline (title : String) (level : Value) : Except Unsupported String := do
  return headlineLine (← headlineMark level) title

end ForumMarkup
