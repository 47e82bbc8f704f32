/-
**Tags.**

Markup consists of tags in square brackets around text.  Text needs no escaping, so a tag only adds
its brackets and never changes what it encloses.

Main definitions:

* `ForumMarkup.Tag` — the tag names that the library writes;
* `ForumMarkup.wrapWith` — text between an opening tag with attributes and its closing tag;
* `ForumMarkup.wrapName`, `ForumMarkup.wrapValue` — an opening tag without attributes, and one with
  a single value;
* `ForumMarkup.asBlock` — text on lines of its own.
-/

set_option autoImplicit false

namespace ForumMarkup

/-! ### The shape of tags -/

/-- Text between an opening and a closing tag of a name.  Attributes follow the name in order. -/
def wrapWith (name contents : String) (attributes : List (String × String)) : String :=
  "[" ++ name ++ String.join (attributes.map fun a => " " ++ a.1 ++ "=\"" ++ a.2 ++ "\"") ++ "]" ++
    contents ++ "[/" ++ name ++ "]"

/-- Text between an opening and a closing tag of a name. -/
def wrapName (name contents : String) : String :=
  "[" ++ name ++ "]" ++ contents ++ "[/" ++ name ++ "]"

/-- Text between an opening tag that carries a value and its closing tag. -/
def wrapValue (name contents value : String) : String :=
  "[" ++ name ++ "=" ++ value ++ "]" ++ contents ++ "[/" ++ name ++ "]"

/-- Text with a line feed on either side. -/
def asBlock (s : String) : String :=
  "\n" ++ s ++ "\n"

/-! ### The vocabulary -/

/-- The tags that the library writes.  All but the bullet are closed. -/
inductive Tag
  | bold
  | underline
  | italic
  | strike
  | font
  | code
  | list
  | bullet
  | url
  | quote
  | table
  | row
  | cell
  | rule
  | lineBreak
deriving DecidableEq, Repr

/-- The name of a tag. -/
def Tag.name : Tag → String
  | .bold => "b"
  | .underline => "u"
  | .italic => "i"
  | .strike => "s"
  | .font => "font"
  | .code => "code"
  | .list => "list"
  | .bullet => "*"
  | .url => "url"
  | .quote => "quote"
  | .table => "table"
  | .row => "tr"
  | .cell => "td"
  | .rule => "hr"
  | .lineBreak => "br"

/-- Text between the opening and the closing form of a tag. -/
def Tag.wrap (t : Tag) (contents : String) : String :=
  wrapName t.name contents

/-- Text between the opening form of a tag with a value and its closing form. -/
def Tag.wrapValue (t : Tag) (contents value : String) : String :=
  ForumMarkup.wrapValue t.name contents value

/-- The mark in front of a list item. -/
def bullet : String := "[" ++ Tag.bullet.name ++ "]"

end ForumMarkup
