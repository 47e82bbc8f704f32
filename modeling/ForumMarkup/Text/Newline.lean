/-
**Line ends.**

Text files end their lines by a line feed, a carriage return, or both in this order.  Inside the
library a line feed ends a line.

Main definitions:

* `ForumMarkup.Text.plainNewlines`, `ForumMarkup.Text.plainLines` — a text with every line end
  written as a line feed.
-/

set_option autoImplicit false

namespace ForumMarkup.Text

/-- A text with every line end written as a line feed. -/
def plainNewlines : List Char → List Char
  | [] => []
  | c :: cs =>
    if c == '\r' then
      match cs with
      | '\n' :: rest => '\n' :: plainNewlines rest
      | rest => '\n' :: plainNewlines rest
    else c :: plainNewlines cs

/-- The same for a string. -/
def plainLines (s : String) : String :=
  String.ofList (plainNewlines s.toList)

end ForumMarkup.Text
