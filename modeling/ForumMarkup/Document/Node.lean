import ForumMarkup.Document.Kind
import ForumMarkup.Value.Basic
/-
**Document nodes.**

A node has a kind, named properties in a fixed order, and children.  Under the names `title` and
`tag` a property may hold nodes of its own, a passage of inline markup that is not among the
children; every other property holds a plain value.

Main definitions:

* `ForumMarkup.Node`, `ForumMarkup.Property` — the tree;
* `ForumMarkup.Node.get?`, `ForumMarkup.Node.value?` — a property, and a property that is a plain
  value;
* `ForumMarkup.Node.set`, `ForumMarkup.Node.remove`, `ForumMarkup.Node.append`,
  `ForumMarkup.Node.dropLast?` — the edits of a node;
* `ForumMarkup.Node.same` — equality of trees;
* `ForumMarkup.Node.shown` — a tree on one line, for messages.
-/

set_option autoImplicit false

namespace ForumMarkup

mutual
/-- A node of a document tree. -/
inductive Node
  | mk (kind : Kind) (properties : List (String × Property)) (children : List Node)
/-- What a property holds: a plain value, or a passage of nodes. -/
inductive Property
  | value (v : Value)
  | nodes (ns : List Node)
end

instance : Inhabited Property := ⟨.value .null⟩

instance : Inhabited Node := ⟨.mk .orgData [] []⟩

/-- The names under which a list in a serialised tree is a list of nodes. -/
def isPassageName (name : String) : Bool :=
  name == "title" || name == "tag"

namespace Node

/-! ### Parts -/

/-- The kind of a node. -/
def kind : Node → Kind
  | .mk k _ _ => k

/-- The properties of a node, in order. -/
def properties : Node → List (String × Property)
  | .mk _ ps _ => ps

/-- The children of a node, in order. -/
def children : Node → List Node
  | .mk _ _ cs => cs

/-- A property by name. -/
def get? (n : Node) (name : String) : Option Property :=
  lookupEntry name n.properties

/-- A plain value among properties, by name. -/
def valueIn? (name : String) (properties : List (String × Property)) : Option Value :=
  match lookupEntry name properties with
  | some (.value v) => some v
  | _ => none

/-- A property that holds a plain value, by name. -/
def value? (n : Node) (name : String) : Option Value :=
  valueIn? name n.properties

/-! ### Edits -/

/-- The node with a plain value under a name. -/
def set (n : Node) (name : String) (v : Value) : Node :=
  .mk n.kind (putEntry name (.value v) n.properties) n.children

/-- The node without the property of a name. -/
def remove (n : Node) (name : String) : Node :=
  .mk n.kind (dropEntry name n.properties) n.children

/-- The node with one more child at the end. -/
def append (n child : Node) : Node :=
  .mk n.kind n.properties (n.children ++ [child])

/-- The last child, and the node without it. -/
def dropLast? (n : Node) : Option (Node × Node) :=
  n.children.getLast?.map fun last => (last, .mk n.kind n.properties n.children.dropLast)

end Node

/-! ### Equality -/

mutual
/-- Whether two trees are equal: the same kinds, properties and children in the same order. -/
def Node.same : Node → Node → Bool
  | .mk j ps cs, .mk k qs ds => decide (j = k) && sameProperties ps qs && sameNodes cs ds
/-- Whether two lists of properties are equal. -/
def sameProperties : List (String × Property) → List (String × Property) → Bool
  | [], [] => true
  | (j, .value v) :: ps, (k, .value w) :: qs => j == k && v == w && sameProperties ps qs
  | (j, .nodes ns) :: ps, (k, .nodes ms) :: qs => j == k && sameNodes ns ms && sameProperties ps qs
  | _, _ => false
/-- Whether two lists of nodes are equal. -/
def sameNodes : List Node → List Node → Bool
  | [], [] => true
  | n :: ns, m :: ms => Node.same n m && sameNodes ns ms
  | _, _ => false
end

instance : BEq Node := ⟨Node.same⟩

/-! ### Showing -/

mutual
/-- A tree on one line. -/
def Node.shown : Node → String
  | .mk k ps cs =>
    "Node(kind=<NodeKind." ++ k.constantName ++ ": " ++ Text.quoted k.name ++
      ">, properties=\x7b" ++ ", ".intercalate (shownProperties ps) ++ "\x7d, children=[" ++
      ", ".intercalate (shownNodes cs) ++ "])"
/-- The properties of a tree, each with its name. -/
def shownProperties : List (String × Property) → List String
  | [] => []
  | (k, .value v) :: ps => (Text.quoted k ++ ": " ++ v.quoted) :: shownProperties ps
  | (k, .nodes ns) :: ps =>
    (Text.quoted k ++ ": [" ++ ", ".intercalate (shownNodes ns) ++ "]") :: shownProperties ps
/-- Each of a list of trees on one line. -/
def shownNodes : List Node → List String
  | [] => []
  | n :: ns => n.shown :: shownNodes ns
end

end ForumMarkup
