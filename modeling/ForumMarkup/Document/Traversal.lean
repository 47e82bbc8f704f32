import ForumMarkup.Document.Node
/-
**Document order.**

The nodes of a tree come in document order: a node first, then what it holds — its title passage,
its tag passage and its children, each from left to right.

Main definitions:

* `ForumMarkup.Node.held` — the nodes directly below a node;
* `ForumMarkup.Node.preorder` — the nodes of a tree in document order, by recursion;
* `ForumMarkup.Node.walk` — the same by a loop with a stack of the nodes still to be seen.

Main results:

* `ForumMarkup.Node.weights_held_lt` — the nodes that a node holds weigh less than the node, so that
  the loop ends.
-/

set_option autoImplicit false

namespace ForumMarkup

/-- The nodes of the passage under a name; a plain value under that name holds none. -/
def passageIn (name : String) (properties : List (String × Property)) : List Node :=
  match lookupEntry name properties with
  | some (.nodes ns) => ns
  | _ => []

namespace Node

/-- The nodes directly below a node, in document order. -/
def held (n : Node) : List Node :=
  passageIn "title" n.properties ++ passageIn "tag" n.properties ++ n.children

end Node

/-! ### By recursion -/

mutual
/-- The nodes of a tree in document order. -/
def Node.preorder : Node → List Node
  | .mk k ps cs =>
    .mk k ps cs :: (preorderUnder "title" ps ++ preorderUnder "tag" ps ++ preorders cs)
/-- The nodes of the passage under a name, in document order. -/
def preorderUnder (name : String) : List (String × Property) → List Node
  | [] => []
  | (k, .nodes ns) :: ps => if k == name then preorders ns else preorderUnder name ps
  | (k, .value _) :: ps => if k == name then [] else preorderUnder name ps
/-- The nodes of a list of trees, in document order. -/
def preorders : List Node → List Node
  | [] => []
  | n :: ns => n.preorder ++ preorders ns
end

/-! ### By a loop -/

mutual
/-- The number of nodes in a tree. -/
def Node.weight : Node → Nat
  | .mk _ ps cs => 1 + weightUnder "title" ps + weightUnder "tag" ps + weights cs
/-- The number of nodes in the passage under a name. -/
def weightUnder (name : String) : List (String × Property) → Nat
  | [] => 0
  | (k, .nodes ns) :: ps => if k == name then weights ns else weightUnder name ps
  | (k, .value _) :: ps => if k == name then 0 else weightUnder name ps
/-- The number of nodes in a list of trees. -/
def weights : List Node → Nat
  | [] => 0
  | n :: ns => n.weight + weights ns
end

theorem weights_append (as bs : List Node) : weights (as ++ bs) = weights as + weights bs := by
  induction as with
  | nil => simp [weights]
  | cons a as ih => simp [weights, ih]; omega

theorem weights_passageIn (name : String) (ps : List (String × Property)) :
    weights (passageIn name ps) = weightUnder name ps := by
  induction ps with
  | nil => simp [passageIn, lookupEntry, weights, weightUnder]
  | cons p ps ih =>
    obtain ⟨k, p⟩ := p
    cases p <;> by_cases h : k == name <;>
      simp_all [passageIn, lookupEntry, weights, weightUnder]

theorem Node.weights_held_lt (n : Node) : weights n.held < n.weight := by
  obtain ⟨k, ps, cs⟩ := n
  simp only [Node.held, Node.properties, Node.children, weights_append, weights_passageIn,
    Node.weight]
  omega

/-- The nodes seen by a loop that takes the first node of its stack and puts the nodes that it holds
in its place. -/
def walk : List Node → List Node
  | [] => []
  | n :: stack => n :: walk (n.held ++ stack)
termination_by stack => weights stack
decreasing_by
  rw [weights_append]
  simp only [weights]
  have := Node.weights_held_lt n
  omega

/-- The nodes of a tree as the loop sees them. -/
def Node.walk (n : Node) : List Node :=
  ForumMarkup.walk [n]

end ForumMarkup
