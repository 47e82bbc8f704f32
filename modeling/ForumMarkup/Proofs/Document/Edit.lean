import ForumMarkup.Proofs.Document.Preorder
import Mathlib.Data.List.Basic
/-
**Edited trees.**

An edit goes through a whole tree.  It puts other plain values in place of those of its nodes, and
it leaves some children out, with all that is below them.  The nodes of passages stay, and so does
the order of everything.

Main definitions:

* `ForumMarkup.Edit` — an edit: what becomes of plain values and of children;
* `ForumMarkup.Node.edit` — a tree after an edit.

Main results:

* `ForumMarkup.children_edit`, `ForumMarkup.valueIn?_edit`, `ForumMarkup.passageIn_edit` — the parts
  of an edited tree;
* `ForumMarkup.preorder_edit` — **the nodes of a tree after an edit** that leaves nothing out.
-/

set_option autoImplicit false

namespace ForumMarkup

/-- An edit of trees. -/
structure Edit where
  /-- The value in place of a plain value, by the kind of its node and its name. -/
  value : Kind → String → Value → Value := fun _ _ v => v
  /-- Whether a child stays below a node of a kind. -/
  keeps : Kind → Node → Bool := fun _ _ => true

mutual
/-- A tree after an edit. -/
def Node.edit (e : Edit) : Node → Node
  | .mk kind ps cs => .mk kind (editProperties e kind ps) (editChildren e kind cs)
/-- The properties of a node of a kind after an edit. -/
def editProperties (e : Edit) (kind : Kind) : List (String × Property) → List (String × Property)
  | [] => []
  | (name, .value v) :: ps => (name, .value (e.value kind name v)) :: editProperties e kind ps
  | (name, .nodes ns) :: ps => (name, .nodes (editPassage e ns)) :: editProperties e kind ps
/-- The nodes of a passage after an edit. -/
def editPassage (e : Edit) : List Node → List Node
  | [] => []
  | n :: ns => n.edit e :: editPassage e ns
/-- The children of a node of a kind after an edit. -/
def editChildren (e : Edit) (kind : Kind) : List Node → List Node
  | [] => []
  | n :: ns => if e.keeps kind n then n.edit e :: editChildren e kind ns else editChildren e kind ns
end

variable (e : Edit)

/-! ### Parts -/

theorem editPassage_eq (ns : List Node) : editPassage e ns = ns.map (Node.edit e) := by
  induction ns with
  | nil => rfl
  | cons n ns ih => rw [editPassage, ih, List.map_cons]

theorem editChildren_eq (kind : Kind) (ns : List Node) :
    editChildren e kind ns = (ns.filter (e.keeps kind)).map (Node.edit e) := by
  induction ns with
  | nil => rfl
  | cons n ns ih =>
      rw [editChildren, ih, List.filter_cons]
      split <;> rfl

@[simp] theorem kind_edit (n : Node) : (n.edit e).kind = n.kind := by
  cases n
  rfl

@[simp] theorem properties_edit (n : Node) :
    (n.edit e).properties = editProperties e n.kind n.properties := by
  cases n
  rfl

theorem children_edit (n : Node) :
    (n.edit e).children = (n.children.filter (e.keeps n.kind)).map (Node.edit e) := by
  cases n
  exact editChildren_eq e _ _

theorem lookupEntry_edit (kind : Kind) (name : String) (ps : List (String × Property)) :
    lookupEntry name (editProperties e kind ps) = (lookupEntry name ps).map fun
      | .value v => .value (e.value kind name v)
      | .nodes ns => .nodes (ns.map (Node.edit e)) := by
  induction ps with
  | nil => rfl
  | cons p ps ih =>
      obtain ⟨name', v | ns⟩ := p <;> rw [editProperties, lookupEntry, lookupEntry] <;>
        by_cases hname : (name' == name) = true
      · rw [if_pos hname, if_pos hname, eq_of_beq hname]
        rfl
      · rw [if_neg hname, if_neg hname, ih]
      · rw [if_pos hname, if_pos hname, editPassage_eq]
        rfl
      · rw [if_neg hname, if_neg hname, ih]

theorem valueIn?_edit (kind : Kind) (name : String) (ps : List (String × Property)) :
    Node.valueIn? name (editProperties e kind ps) =
      (Node.valueIn? name ps).map (e.value kind name) := by
  rw [Node.valueIn?, Node.valueIn?, lookupEntry_edit]
  rcases lookupEntry name ps with _ | v | ns <;> rfl

variable {e} in
/-- A value that the edit keeps. -/
theorem valueIn?_edit_of_eq {kind : Kind} {name : String} (h : ∀ v, e.value kind name v = v)
    (ps : List (String × Property)) :
    Node.valueIn? name (editProperties e kind ps) = Node.valueIn? name ps := by
  rw [valueIn?_edit, funext h]
  exact congrFun Option.map_id _

theorem passageIn_edit (kind : Kind) (name : String) (ps : List (String × Property)) :
    passageIn name (editProperties e kind ps) = (passageIn name ps).map (Node.edit e) := by
  rw [passageIn, passageIn, lookupEntry_edit]
  rcases lookupEntry name ps with _ | v | ns <;> rfl

/-! ### Nodes -/

/-- The nodes of a tree after an edit that leaves nothing out. -/
theorem preorder_edit (hkeeps : ∀ kind n, e.keeps kind n = true) (n : Node) :
    (n.edit e).preorder = n.preorder.map (Node.edit e) := by
  induction n using Node.induction with
  | h n hcs hps =>
      have hlist : ∀ ns : List Node,
          (∀ c ∈ ns, (c.edit e).preorder = c.preorder.map (Node.edit e)) →
          (ns.map (Node.edit e)).flatMap Node.preorder =
            (ns.flatMap Node.preorder).map (Node.edit e) := by
        intro ns hns
        rw [List.flatMap_map, List.map_flatMap]
        exact List.flatMap_congr hns
      have hall : n.children.filter (e.keeps n.kind) = n.children :=
        List.filter_eq_self.2 fun c _ => hkeeps n.kind c
      rw [Node.preorder_eq, n.preorder_eq, children_edit, hall, properties_edit, passageIn_edit,
        passageIn_edit, hlist _ hcs, hlist _ (hps "title"), hlist _ (hps "tag")]
      simp only [List.map_cons, List.map_append]

end ForumMarkup
