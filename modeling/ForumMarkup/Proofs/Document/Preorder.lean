import ForumMarkup.Document.Traversal
import ForumMarkup.Proofs.Document.Induction
/-
**The nodes of a tree.**

The nodes of a tree in document order are the tree itself and the nodes of the trees that it holds,
in its passages and among its children.  So whatever is said of all nodes of a tree is said of all
nodes of each tree in it.

Main results:

* `ForumMarkup.Node.induction` — induction over trees with one statement only;
* `ForumMarkup.Node.preorder_eq`, `ForumMarkup.mem_preorder_self`,
  `ForumMarkup.preorder_subset_of_mem_children`,
  `ForumMarkup.preorder_subset_of_mem_passageIn` — the nodes of a tree by its parts;
* `ForumMarkup.preorder_subset` — **the nodes of a tree in a tree are among its nodes**.
-/

set_option autoImplicit false

namespace ForumMarkup

/-- Induction over trees, for statements that do not depend on where a tree stands. -/
theorem Node.induction {P : Node → Prop}
    (h : ∀ n : Node, (∀ c ∈ n.children, P c) →
      (∀ name, ∀ c ∈ passageIn name n.properties, P c) → P n) (n : Node) : P n := by
  have hcases : TreeCases P (fun ns => ∀ c ∈ ns, P c)
      (fun ps => ∀ name, ∀ c ∈ passageIn name ps, P c) :=
    { node := fun kind ps cs hps hcs => h (.mk kind ps cs) hcs hps
      nil := fun _ hc => nomatch hc
      cons := fun n ns hn hns => List.forall_mem_cons.2 ⟨hn, hns⟩
      bare := fun _ _ hc => nomatch hc
      value := by
        intro name v ps hps sought c hc
        by_cases hname : (name == sought) = true
        · simp [passageIn, lookupEntry, hname] at hc
        · exact hps sought c (by simpa only [passageIn, lookupEntry, if_neg hname] using hc)
      nodes := by
        intro name ns ps hns hps sought c hc
        by_cases hname : (name == sought) = true
        · exact hns c (by simpa only [passageIn, lookupEntry, if_pos hname] using hc)
        · exact hps sought c (by simpa only [passageIn, lookupEntry, if_neg hname] using hc) }
  exact hcases.holds n

theorem preorders_eq (ns : List Node) : preorders ns = ns.flatMap Node.preorder := by
  induction ns with
  | nil => rfl
  | cons n ns ih => rw [preorders, ih, List.flatMap_cons]

theorem preorderUnder_eq (name : String) (ps : List (String × Property)) :
    preorderUnder name ps = preorders (passageIn name ps) := by
  induction ps with
  | nil => rfl
  | cons p ps ih =>
      obtain ⟨k, p⟩ := p
      cases p <;> by_cases h : k = name <;>
        simp_all [preorderUnder, passageIn, lookupEntry, preorders]

theorem mem_preorder_self (n : Node) : n ∈ n.preorder := by
  obtain ⟨kind, ps, cs⟩ := n
  simp [Node.preorder]

theorem preorders_subset {kind : Kind} {ps : List (String × Property)} {cs : List Node} :
    preorders cs ⊆ (Node.mk kind ps cs).preorder := by
  intro n hn
  simp [Node.preorder, hn]

theorem preorder_subset_of_mem_children {n c : Node} (h : c ∈ n.children) :
    c.preorder ⊆ n.preorder := by
  obtain ⟨kind, ps, cs⟩ := n
  intro m hm
  refine preorders_subset ?_
  rw [preorders_eq]
  exact List.mem_flatMap.2 ⟨c, h, hm⟩

/-- Passages stand under two names. -/
theorem preorderUnder_subset {name : String} (hname : isPassageName name = true) {kind : Kind}
    {ps : List (String × Property)} {cs : List Node} :
    preorderUnder name ps ⊆ (Node.mk kind ps cs).preorder := by
  intro n hn
  have hcases : name = "title" ∨ name = "tag" := by simpa [isPassageName] using hname
  rcases hcases with rfl | rfl <;> simp [Node.preorder, hn]

theorem preorder_subset_of_mem_passageIn {n c : Node} {name : String}
    (hname : isPassageName name = true) (h : c ∈ passageIn name n.properties) :
    c.preorder ⊆ n.preorder := by
  obtain ⟨kind, ps, cs⟩ := n
  intro m hm
  refine preorderUnder_subset hname ?_
  rw [preorderUnder_eq, preorders_eq]
  exact List.mem_flatMap.2 ⟨c, h, hm⟩

/-- The nodes of a tree by its parts, in order. -/
theorem Node.preorder_eq (n : Node) : n.preorder = n ::
    ((passageIn "title" n.properties).flatMap preorder ++
      (passageIn "tag" n.properties).flatMap preorder ++ n.children.flatMap preorder) := by
  obtain ⟨kind, ps, cs⟩ := n
  rw [preorder, preorderUnder_eq, preorderUnder_eq, preorders_eq, preorders_eq, preorders_eq]
  rfl

theorem mem_preorder_iff {n m : Node} :
    n ∈ m.preorder ↔ n = m ∨ (∃ c ∈ passageIn "title" m.properties, n ∈ c.preorder) ∨
      (∃ c ∈ passageIn "tag" m.properties, n ∈ c.preorder) ∨ ∃ c ∈ m.children, n ∈ c.preorder := by
  rw [m.preorder_eq]
  simp only [List.mem_cons, List.mem_append, List.mem_flatMap, or_assoc]

/-- The nodes of a tree in a tree are among its nodes. -/
theorem preorder_subset {n m : Node} (h : n ∈ m.preorder) : n.preorder ⊆ m.preorder := by
  induction m using Node.induction with
  | h m hcs hps =>
      -- A node below another one stands in a title, in a term or among the children.
      rcases mem_preorder_iff.1 h with rfl | ⟨c, hc, hn⟩ | ⟨c, hc, hn⟩ | ⟨c, hc, hn⟩
      · exact List.Subset.refl _
      · exact List.Subset.trans (hps "title" c hc hn) (preorder_subset_of_mem_passageIn rfl hc)
      · exact List.Subset.trans (hps "tag" c hc hn) (preorder_subset_of_mem_passageIn rfl hc)
      · exact List.Subset.trans (hcs c hc hn) (preorder_subset_of_mem_children hc)

end ForumMarkup
