/-
**Kinds of document nodes.**

A document tree knows forty-eight kinds of node, a closed set.  Objects are the inline kinds, such
as emphasis and links; the others are elements, the kinds that make up blocks.

Main definitions:

* `ForumMarkup.Kind` — the kinds;
* `ForumMarkup.Kind.name`, `ForumMarkup.Kind.ofName?` — the name of a kind in a serialised tree, and
  the kind of a name;
* `ForumMarkup.Kind.all` — every kind, in the order of the declaration;
* `ForumMarkup.Kind.isObject` — whether a kind is inline;
* `ForumMarkup.Kind.handlerName`, `ForumMarkup.Kind.missingHandlers` — the name of the operation
  that handles a kind, and what a set of handlers leaves out.

Main results:

* `ForumMarkup.Kind.mem_all` — no kind is missing from the list;
* `ForumMarkup.Kind.ofName?_name` — a name determines its kind.
-/

set_option autoImplicit false

namespace ForumMarkup

/-- The kind of a document node. -/
inductive Kind
  | orgData
  | bold
  | centerBlock
  | clock
  | code
  | drawer
  | dynamicBlock
  | entity
  | exampleBlock
  | exportBlock
  | exportSnippet
  | fixedWidth
  | footnoteDefinition
  | footnoteReference
  | headline
  | horizontalRule
  | inlineSrcBlock
  | inlinetask
  | italic
  | item
  | keyword
  | latexEnvironment
  | latexFragment
  | lineBreak
  | link
  | nodeProperty
  | paragraph
  | plainList
  | plainText
  | planning
  | propertyDrawer
  | quoteBlock
  | radioTarget
  | section
  | specialBlock
  | srcBlock
  | statisticsCookie
  | strikeThrough
  | subscript
  | superscript
  | table
  | tableCell
  | tableRow
  | target
  | timestamp
  | underline
  | verbatim
  | verseBlock
deriving DecidableEq, Repr, Inhabited

namespace Kind

/-- The name of a kind in a serialised tree. -/
def name : Kind → String
  | .orgData => "org-data"
  | .bold => "bold"
  | .centerBlock => "center-block"
  | .clock => "clock"
  | .code => "code"
  | .drawer => "drawer"
  | .dynamicBlock => "dynamic-block"
  | .entity => "entity"
  | .exampleBlock => "example-block"
  | .exportBlock => "export-block"
  | .exportSnippet => "export-snippet"
  | .fixedWidth => "fixed-width"
  | .footnoteDefinition => "footnote-definition"
  | .footnoteReference => "footnote-reference"
  | .headline => "headline"
  | .horizontalRule => "horizontal-rule"
  | .inlineSrcBlock => "inline-src-block"
  | .inlinetask => "inlinetask"
  | .italic => "italic"
  | .item => "item"
  | .keyword => "keyword"
  | .latexEnvironment => "latex-environment"
  | .latexFragment => "latex-fragment"
  | .lineBreak => "line-break"
  | .link => "link"
  | .nodeProperty => "node-property"
  | .paragraph => "paragraph"
  | .plainList => "plain-list"
  | .plainText => "plain-text"
  | .planning => "planning"
  | .propertyDrawer => "property-drawer"
  | .quoteBlock => "quote-block"
  | .radioTarget => "radio-target"
  | .section => "section"
  | .specialBlock => "special-block"
  | .srcBlock => "src-block"
  | .statisticsCookie => "statistics-cookie"
  | .strikeThrough => "strike-through"
  | .subscript => "subscript"
  | .superscript => "superscript"
  | .table => "table"
  | .tableCell => "table-cell"
  | .tableRow => "table-row"
  | .target => "target"
  | .timestamp => "timestamp"
  | .underline => "underline"
  | .verbatim => "verbatim"
  | .verseBlock => "verse-block"

/-- Every kind, in the order of the declaration. -/
def all : List Kind :=
  [ .orgData, .bold, .centerBlock, .clock, .code, .drawer, .dynamicBlock, .entity,
    .exampleBlock, .exportBlock, .exportSnippet, .fixedWidth, .footnoteDefinition,
    .footnoteReference, .headline, .horizontalRule, .inlineSrcBlock, .inlinetask, .italic,
    .item, .keyword, .latexEnvironment, .latexFragment, .lineBreak, .link, .nodeProperty,
    .paragraph, .plainList, .plainText, .planning, .propertyDrawer, .quoteBlock, .radioTarget,
    .section, .specialBlock, .srcBlock, .statisticsCookie, .strikeThrough, .subscript,
    .superscript, .table, .tableCell, .tableRow, .target, .timestamp, .underline, .verbatim,
    .verseBlock ]

theorem mem_all (k : Kind) : k ∈ all := by
  cases k <;> decide

/-- The kind of a name. -/
def ofName? (s : String) : Option Kind :=
  all.find? fun k => k.name == s

theorem ofName?_name (k : Kind) : ofName? k.name = some k := by
  cases k <;> rfl

/-- Objects are the inline kinds. -/
def isObject : Kind → Bool
  | .bold
  | .code
  | .entity
  | .exportSnippet
  | .footnoteReference
  | .inlineSrcBlock
  | .italic
  | .latexFragment
  | .lineBreak
  | .link
  | .plainText
  | .radioTarget
  | .statisticsCookie
  | .strikeThrough
  | .subscript
  | .superscript
  | .tableCell
  | .target
  | .timestamp
  | .underline
  | .verbatim => true
  | _ => false

/-! ### Names derived from the kind -/

/-- A name with low lines in place of its hyphens. -/
def lowLined (s : String) : String :=
  String.ofList (s.toList.map fun c => if c == '-' then '_' else c)

/-- An ASCII letter in upper case. -/
def upperLetter (c : Char) : Char :=
  if 97 ≤ c.toNat ∧ c.toNat ≤ 122 then Char.ofNat (c.toNat - 32) else c

/-- The name of a kind as a constant: capitals and low lines. -/
def constantName (k : Kind) : String :=
  String.ofList ((lowLined k.name).toList.map upperLetter)

/-- The name of the operation that handles a kind. -/
def handlerName (k : Kind) : String :=
  "visit_" ++ lowLined k.name

/-- The handlers that a set of handled kinds lacks, by name.  A set of handlers is complete when
this is empty. -/
def missingHandlers (handled : List Kind) : List String :=
  ((all.filter fun k => !handled.contains k).map handlerName).mergeSort fun a b => !decide (b < a)

end Kind

end ForumMarkup
