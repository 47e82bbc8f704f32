import ForumMarkup.Document.Node
/-
**Induction over trees.**

A node holds a list of properties and a list of children, and a property may hold a list of nodes
again.  A statement about trees is proved together with one about lists of nodes and one about lists
of properties; this module packages that induction once.

Main definitions:

* `ForumMarkup.TreeCases` — what has to be shown of the three statements.

Main results:

* `ForumMarkup.TreeCases.holds`, `ForumMarkup.TreeCases.holds_nodes`,
  `ForumMarkup.TreeCases.holds_properties` — the three statements.
-/

set_option autoImplicit false

namespace ForumMarkup

/-- The cases of an induction over trees: `P` is shown of trees, `Q` of lists of trees and `R` of
lists of properties. -/
structure TreeCases (P : Node → Prop) (Q : List Node → Prop)
    (R : List (String × Property) → Prop) : Prop where
  node : ∀ kind ps cs, R ps → Q cs → P (.mk kind ps cs)
  nil : Q []
  cons : ∀ n ns, P n → Q ns → Q (n :: ns)
  bare : R []
  value : ∀ name v ps, R ps → R ((name, .value v) :: ps)
  nodes : ∀ name ns ps, Q ns → R ps → R ((name, .nodes ns) :: ps)

namespace TreeCases

variable {P : Node → Prop} {Q : List Node → Prop} {R : List (String × Property) → Prop}

mutual
theorem holds (h : TreeCases P Q R) : ∀ n : Node, P n
  | .mk kind ps cs => h.node kind ps cs (holds_properties h ps) (holds_nodes h cs)
  termination_by structural n => n
theorem holds_nodes (h : TreeCases P Q R) : ∀ ns : List Node, Q ns
  | [] => h.nil
  | n :: ns => h.cons n ns (holds h n) (holds_nodes h ns)
  termination_by structural ns => ns
theorem holds_properties (h : TreeCases P Q R) : ∀ ps : List (String × Property), R ps
  | [] => h.bare
  | (name, .value v) :: ps => h.value name v ps (holds_properties h ps)
  | (name, .nodes ns) :: ps => h.nodes name ns ps (holds_nodes h ns) (holds_properties h ps)
  termination_by structural ps => ps
end

end TreeCases

end ForumMarkup
