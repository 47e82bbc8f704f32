import ForumMarkup.Document.Kind
import ForumMarkup.Value.Basic
/-
**What the markup cannot express.**

A document can hold constructs for which forum markup has no tag.  One of them aborts the whole
pass, and the user is told which.

Main definitions:

* `ForumMarkup.ConstructClass` — the classes of constructs;
* `ForumMarkup.Unsupported` — the constructs that can be refused;
* `ForumMarkup.Unsupported.construct`, `ForumMarkup.Unsupported.message` — the construct as data,
  and the sentence shown to the user.
-/

set_option autoImplicit false

namespace ForumMarkup

/-- The classes of constructs. -/
inductive ConstructClass
  | node
  | link
  | list
  | headline
  | footnote
deriving DecidableEq, Repr

/-- The name of a class. -/
def ConstructClass.name : ConstructClass → String
  | .node => "node"
  | .link => "link"
  | .list => "list"
  | .headline => "headline"
  | .footnote => "footnote"

/-- The constructs that can be refused. -/
inductive Unsupported
  /-- A node of a kind without a counterpart in the markup. -/
  | node (kind : Kind)
  /-- A link that is neither a web link nor an anchor. -/
  | link (scheme target : String)
  /-- A list of an unknown type. -/
  | list (type : Value)
  /-- A headline of a level without a mark. -/
  | headline (level : Value)
  /-- A footnote whose definition stands at the reference. -/
  | inlineFootnote
  /-- A reference to a footnote without a definition. -/
  | undefinedFootnote (label : Value)
deriving Repr

/-- The end of every sentence about a refused construct. -/
def notSupported : String := "' is not supported by the BBCode exporter"

namespace Unsupported

/-- The class of a refused construct. -/
def constructClass : Unsupported → ConstructClass
  | .node _ => .node
  | .link _ _ => .link
  | .list _ => .list
  | .headline _ => .headline
  | .inlineFootnote => .footnote
  | .undefinedFootnote _ => .footnote

/-- The refused construct. -/
def construct : Unsupported → Value
  | .node kind => .text kind.name
  | .link scheme _ => .text scheme
  | .list type => .text type.shown
  | .headline level => .text level.shown
  | .inlineFootnote => .text "inline"
  | .undefinedFootnote label => label

/-- The sentence shown to the user. -/
def message : Unsupported → String
  | .node kind => "NODE `" ++ kind.name ++ notSupported
  | .link scheme target =>
    "LINK type `" ++ scheme ++ "' (" ++ target ++ ") is not supported by the BBCode exporter"
  | .list type => "PLAIN-LIST type `" ++ type.shown ++ notSupported
  | .headline level => "Headline level `" ++ level.shown ++ notSupported
  | .inlineFootnote => "Inline footnotes are not supported by the BBCode exporter"
  | .undefinedFootnote label => "Footnote `" ++ label.shown ++ "' is referenced but never defined"

end Unsupported

end ForumMarkup
