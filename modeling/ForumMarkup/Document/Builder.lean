import ForumMarkup.Document.Node
/-
**Building nodes by hand.**

Programs that put trees together need nodes with the properties that their kind calls for.  A link
is built from its raw target: what stands before the first colon is its scheme, and a target without
a colon is a search in the same document.

Main definitions:

* `ForumMarkup.plain` — values as properties;
* `ForumMarkup.splitTarget` — the scheme and the path of a raw link target;
* `ForumMarkup.Node.leaf`, `ForumMarkup.Node.branch`, `ForumMarkup.Node.text`,
  `ForumMarkup.Node.link`, `ForumMarkup.Node.reference`, `ForumMarkup.Node.definition` — nodes.
-/

set_option autoImplicit false

namespace ForumMarkup

/-- Values as properties. -/
def plain (entries : List (String × Value)) : List (String × Property) :=
  entries.map fun e => (e.1, .value e.2)

/-- What stands before and after the first colon, if there is one. -/
def splitAtColon : List Text.Point → Option (List Text.Point × List Text.Point)
  | [] => none
  | c :: cs =>
    if c = .char ':' then some ([], cs) else (splitAtColon cs).map fun (a, b) => (c :: a, b)

/-- The scheme and the path of a raw link target. -/
def splitTarget (raw : List Text.Point) : List Text.Point × List Text.Point :=
  (splitAtColon raw).getD (Text.pointsOf "fuzzy", raw)

/-- The properties of a link with a raw target. -/
def linkProperties (raw : List Text.Point) : List (String × Value) :=
  let (scheme, path) := splitTarget raw
  [("type", .ofPoints scheme), ("path", .ofPoints path), ("raw_link", .ofPoints raw)]

namespace Node

/-- A node without children. -/
def leaf (kind : Kind) (properties : List (String × Value)) : Node :=
  .mk kind (plain properties) []

/-- A node with children only. -/
def branch (kind : Kind) (children : List Node) : Node :=
  .mk kind [] children

/-- A piece of text. -/
def text (s : String) : Node :=
  leaf .plainText [("value", .text s)]

/-- A link with a raw target and a description. -/
def link (raw : List Text.Point) (description : List Node) : Node :=
  .mk .link (plain (linkProperties raw)) description

/-- A reference to a footnote. -/
def reference (label : String) : Node :=
  leaf .footnoteReference [("label", .text label), ("type", .text "standard")]

/-- The definition of a footnote. -/
def definition (label : String) (children : List Node) : Node :=
  .mk .footnoteDefinition (plain [("label", .text label)]) children

end Node

end ForumMarkup
