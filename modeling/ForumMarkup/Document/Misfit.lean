import ForumMarkup.Value.Basic
/-
**Values that do not fit their use.**

Properties may hold values of any shape, and most uses of them accept any shape.  A few do not: text
can only be joined with text, a passage has to be a list of nodes, a number of blanks has to be a
number, and an integer with too many digits cannot be shown.  The module names the ways in which
such a use can fail.

Main definitions:

* `ForumMarkup.Misfit` — the ways;
* `ForumMarkup.Value.display` — a value as plain text, unless an integer in it is too long.
-/

set_option autoImplicit false

namespace ForumMarkup

/-- The ways in which a value can fail to fit its use. -/
inductive Misfit
  /-- Something else than text is joined with text. -/
  | notText
  /-- Something else than text is asked for its last line. -/
  | notLines
  /-- Something that is no list is taken for a passage of nodes. -/
  | notPassage
  /-- Something that is no node stands in a passage of nodes. -/
  | notNode
  /-- A list or an object is taken for a number of blanks. -/
  | notCount
  /-- A text that denotes no integer, or not-a-number, is taken for a number of blanks. -/
  | unreadableCount
  /-- A number of blanks, or an indent, is infinite or lies outside the range of machine
  integers. -/
  | unboundedCount
  /-- A list or an object is taken for the label of a footnote. -/
  | notLabel
  /-- Something that is no number is taken for the level of a headline. -/
  | notLevel
  /-- An integer beyond the range of floating-point numbers is subtracted from one. -/
  | unboundedLevel
  /-- A value is shown in which an integer has too many digits. -/
  | longInteger
  /-- A text in which a surrogate stands alone is put into a form that is made of bytes. -/
  | illFormed
  /-- Something that JSON cannot express is written as JSON text. -/
  | notJson
deriving DecidableEq, Repr

/-- A value as plain text. -/
def Value.display (v : Value) : Except Misfit String :=
  if v.isShowable then .ok v.shown else .error .longInteger

end ForumMarkup
