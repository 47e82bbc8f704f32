import ForumMarkup.Proofs.Document.Preorder
import ForumMarkup.Proofs.Value.Entry
import Mathlib.Data.List.Forall2
import Mathlib.Logic.Relation
/-
**Changes somewhere in a tree.**

A change of single nodes makes a change of trees: one node of the tree, at any depth, in a passage
or among children, becomes another one.  The nodes of some kinds in document order correspond one by
one, if the change neither adds such nodes nor takes them away.

Main definitions:

* `ForumMarkup.Somewhere` — a tree in which a change has happened at one node;
* `ForumMarkup.Node.ofKinds` — the nodes of some kinds in a tree, in document order.

Main results:

* `ForumMarkup.passageIn_between`, `ForumMarkup.valueIn?_between` — the parts of a node when one of
  its passages becomes another one;
* `ForumMarkup.Somewhere.forall₂_ofKinds` — **the nodes of some kinds correspond one by one**, and
  each of them is the same or has changed somewhere itself.
-/

set_option autoImplicit false

namespace ForumMarkup

/-! ### Changes -/

/-- A tree in which a change has happened at one node. -/
inductive Somewhere (change : Node → Node → Prop) : Node → Node → Prop
  | here {n n' : Node} : change n n' → Somewhere change n n'
  | child {kind : Kind} {ps : List (String × Property)} {before after : List Node} {c c' : Node} :
      Somewhere change c c' →
      Somewhere change (.mk kind ps (before ++ c :: after)) (.mk kind ps (before ++ c' :: after))
  | passage {kind : Kind} {front back : List (String × Property)} {name : String}
      {before after cs : List Node} {c c' : Node} :
      Somewhere change c c' →
      Somewhere change (.mk kind (front ++ (name, .nodes (before ++ c :: after)) :: back) cs)
        (.mk kind (front ++ (name, .nodes (before ++ c' :: after)) :: back) cs)

/-! ### A passage among properties -/

section

variable (name k : String) (front back : List (String × Property))

/-- A passage between other properties is read under its name, or makes no difference. -/
theorem passageIn_between :
    (∀ ns, passageIn name (front ++ (k, .nodes ns) :: back) = ns) ∨
      ∀ p, passageIn name (front ++ (k, p) :: back) = passageIn name (front ++ back) := by
  rcases lookupEntry_between name k front back with ⟨-, hfound⟩ | hother
  · exact .inl fun ns => by rw [passageIn, hfound]
  · exact .inr fun p => by rw [passageIn, passageIn, hother]

/-- It is no plain value under any name. -/
theorem valueIn?_between (ns ns' : List Node) :
    Node.valueIn? name (front ++ (k, .nodes ns') :: back) =
      Node.valueIn? name (front ++ (k, .nodes ns) :: back) := by
  rcases lookupEntry_between name k front back with ⟨-, hfound⟩ | hother
  · rw [Node.valueIn?, Node.valueIn?, hfound, hfound]
  · rw [Node.valueIn?, Node.valueIn?, hother, hother]

end

/-! ### Nodes of some kinds -/

/-- The nodes of some kinds in a tree, in document order. -/
def Node.ofKinds (p : Kind → Bool) (n : Node) : List Node :=
  n.preorder.filter fun m => p m.kind

variable {p : Kind → Bool}

theorem Node.flatMap_held {α : Type} (f : Node → List α) (n : Node) :
    n.held.flatMap f = (passageIn "title" n.properties).flatMap f ++
      (passageIn "tag" n.properties).flatMap f ++ n.children.flatMap f := by
  rw [held, List.flatMap_append, List.flatMap_append]

theorem Node.ofKinds_eq (n : Node) :
    n.ofKinds p = (if p n.kind then [n] else []) ++ n.held.flatMap (ofKinds p) := by
  have hlist : ∀ ns : List Node, (ns.flatMap preorder).filter (fun m => p m.kind) =
      ns.flatMap (ofKinds p) := fun ns => List.filter_flatMap
  rw [ofKinds, n.preorder_eq, List.filter_cons, List.filter_append, List.filter_append, hlist,
    hlist, hlist, flatMap_held]
  split <;> rfl

/-- A change of single nodes that keeps their kinds, and the nodes of some kinds below them. -/
structure KeepsKinds (p : Kind → Bool) (change : Node → Node → Prop) : Prop where
  kind : ∀ {n n'}, change n n' → n'.kind = n.kind
  below : ∀ {n n'}, change n n' →
    n'.held.flatMap (Node.ofKinds p) = n.held.flatMap (Node.ofKinds p)

namespace Somewhere

variable {change : Node → Node → Prop}

theorem kind_eq (hkeeps : KeepsKinds p change) {n n' : Node} (h : Somewhere change n n') :
    n'.kind = n.kind := by
  cases h with
  | here h => exact hkeeps.kind h
  | child _ => rfl
  | passage _ => rfl

/-- Lists of trees of which one has changed somewhere. -/
theorem forall₂_between (before after : List Node) {c c' : Node}
    (h : List.Forall₂ (Relation.ReflGen (Somewhere change)) (c.ofKinds p) (c'.ofKinds p)) :
    List.Forall₂ (Relation.ReflGen (Somewhere change))
      ((before ++ c :: after).flatMap (Node.ofKinds p))
      ((before ++ c' :: after).flatMap (Node.ofKinds p)) := by
  rw [List.flatMap_append, List.flatMap_append, List.flatMap_cons, List.flatMap_cons]
  exact List.rel_append (List.forall₂_refl _) (List.rel_append h (List.forall₂_refl _))

/-- **The nodes of some kinds correspond one by one** when a change has happened somewhere. -/
theorem forall₂_ofKinds (hkeeps : KeepsKinds p change) {n n' : Node} (h : Somewhere change n n') :
    List.Forall₂ (Relation.ReflGen (Somewhere change)) (n.ofKinds p) (n'.ofKinds p) := by
  have hself : ∀ {n n' : Node}, Somewhere change n n' →
      List.Forall₂ (Relation.ReflGen (Somewhere change)) (if p n.kind then [n] else [])
        (if p n'.kind then [n'] else []) := by
    intro n n' h
    rw [h.kind_eq hkeeps]
    split
    · exact .cons (.single h) .nil
    · exact .nil
  induction h with
  | here h =>
      rw [Node.ofKinds_eq, Node.ofKinds_eq, hkeeps.below h]
      exact List.rel_append (hself (.here h)) (List.forall₂_refl _)
  | @child kind ps before after c c' h ih =>
      rw [Node.ofKinds_eq, Node.ofKinds_eq, Node.flatMap_held, Node.flatMap_held]
      exact List.rel_append (hself (.child h))
        (List.rel_append (List.forall₂_refl _) (forall₂_between before after ih))
  | @passage kind front back name before after cs c c' h ih =>
      have hpassage : ∀ sought, List.Forall₂ (Relation.ReflGen (Somewhere change))
          ((passageIn sought (front ++ (name, .nodes (before ++ c :: after)) :: back)).flatMap
            (Node.ofKinds p))
          ((passageIn sought (front ++ (name, .nodes (before ++ c' :: after)) :: back)).flatMap
            (Node.ofKinds p)) := by
        intro sought
        rcases passageIn_between sought name front back with hread | hother
        · rw [hread, hread]
          exact forall₂_between before after ih
        · rw [hother, hother]
          exact List.forall₂_refl _
      rw [Node.ofKinds_eq, Node.ofKinds_eq, Node.flatMap_held, Node.flatMap_held]
      exact List.rel_append (hself (.passage h)) (List.rel_append
        (List.rel_append (hpassage "title") (hpassage "tag")) (List.forall₂_refl _))

end Somewhere

end ForumMarkup
