import ForumMarkup.Proofs.Document.Walk
import ForumMarkup.Proofs.Pass.Reach
import ForumMarkup.Proofs.Pass.Watch
/-
**What a walk finds.**

Before a pass begins, a walk through the document collects the definitions of its footnotes and
finds the least level of its headlines.  The pass then goes its own way.  It comes to no node that
the walk has not seen, and in the body of the document it comes to them in the order of the walk.
So the levels of all headlines that it writes have been compared, and the definitions that it writes
are the ones that the walk has seen first.

Main definitions:

* `ForumMarkup.watchPass` — a pass over a document, watched;
* `ForumMarkup.FoundByWalk` — what a walk has to do with the notes of a pass.

Main results:

* `ForumMarkup.sights_sublist` — the sights of a tree are in the order of the walk;
* `ForumMarkup.Scope.node_mem_documentSights`, `ForumMarkup.Scope.definition_mem_documentSights` —
  the sights of a pass are the nodes that it reaches and the definitions that it writes;
* `ForumMarkup.topLevelOf_spec` — the least level is one of the levels, and none is lesser;
* `ForumMarkup.watchPass_foundByWalk` — **a walk sees every node that a pass comes to**.
-/

set_option autoImplicit false

namespace ForumMarkup

/-! ### Sights and the walk -/

/-- The sights of a tree are nodes of it, in the order of the walk. -/
theorem sights_sublist : TreeCases
    (fun n => ∀ inList, (n.sights inList).Sublist (n.preorder.map .node))
    (fun ns => ∀ inList, (listSights inList ns).Sublist ((preorders ns).map .node))
    (fun ps => ∀ name, (passageSights name ps).Sublist ((preorderUnder name ps).map .node)) where
  node kind ps cs hps hcs := by
    intro inList
    rw [Node.sights, Node.preorder, List.map_cons]
    refine .cons_cons _ ?_
    -- A walk looks at the title and the term of any node, and at its children.
    have hwhole {as bs : List Sight}
        (has : as.Sublist ((preorderUnder "title" ps ++ preorderUnder "tag" ps).map .node))
        (hbs : bs.Sublist ((preorders cs).map .node)) : (as ++ bs).Sublist
          ((preorderUnder "title" ps ++ preorderUnder "tag" ps ++ preorders cs).map .node) := by
      rw [List.map_append]
      exact has.append hbs
    have htitle := (hps "title").trans ((List.sublist_append_left _ (preorderUnder "tag" ps)).map _)
    have htag := (hps "tag").trans ((List.sublist_append_right (preorderUnder "title" ps) _).map _)
    cases kind.role with
    | container =>
        refine hwhole ?_ (hcs false)
        split
        · exact htag
        · exact List.nil_sublist _
    | headline =>
        cases isSuppressed ps with
        | true => exact List.nil_sublist _
        | false => exact hwhole htitle (hcs false)
    | list => exact hwhole (List.nil_sublist _) (hcs (isDescriptive ps))
    | link => exact hwhole (List.nil_sublist _) (hcs false)
    | _ => exact List.nil_sublist _
  nil := fun _ => .slnil
  cons n ns hn hns := by
    intro inList
    rw [listSights, preorders, List.map_append]
    exact (hn inList).append (hns inList)
  bare := fun _ => .slnil
  value name v ps hps := by
    intro sought
    rw [passageSights, preorderUnder]
    split
    · exact .slnil
    · exact hps sought
  nodes name ns ps hns hps := by
    intro sought
    rw [passageSights, preorderUnder]
    split
    · exact hns false
    · exact hps sought

/-- Whether a sight is a node that the pass comes to. -/
def Sight.isNode : Sight → Bool
  | .node _ => true
  | .definition _ => false

theorem isNode_of_sublist {xs : List Sight} {ns : List Node} (h : xs.Sublist (ns.map .node)) :
    ∀ x ∈ xs, x.isNode = true := by
  intro x hx
  obtain ⟨n, -, rfl⟩ := List.mem_map.1 (h.mem hx)
  rfl

/-- In a tree a pass comes to nodes only. -/
theorem isNode_of_mem_sights (n : Node) (inList : Bool) : ∀ x ∈ n.sights inList, x.isNode = true :=
  isNode_of_sublist (sights_sublist.holds n inList)

theorem isNode_of_mem_listSights (ns : List Node) (inList : Bool) :
    ∀ x ∈ listSights inList ns, x.isNode = true :=
  isNode_of_sublist (sights_sublist.holds_nodes ns inList)

namespace Scope

variable {s : Scope} {root : Node}

/-- The definitions that a pass lists are those of the labels in its order of footnotes. -/
theorem definition_mem_documentSights {d : Node} :
    .definition d ∈ s.documentSights root ↔
      ∃ label ∈ s.notes root, lookupEntry label s.definitions = some d := by
  have hbody : .definition d ∉ root.sights false := fun h =>
    Bool.false_ne_true (isNode_of_mem_sights root false _ h)
  have hnote : ∀ label, .definition d ∈ s.noteSights label ↔
      lookupEntry label s.definitions = some d := by
    intro label
    unfold noteSights
    cases lookupEntry label s.definitions with
    | none => simp
    | some d' =>
        have hbelow : .definition d ∉ listSights false d'.children := fun h =>
          Bool.false_ne_true (isNode_of_mem_listSights d'.children false _ h)
        simp [hbelow, eq_comm]
  simp [documentSights, hbody, hnote]

/-- What a pass comes to before any definition are the sights of the body. -/
theorem takeWhile_documentSights :
    (s.documentSights root).takeWhile Sight.isNode = root.sights false := by
  have hnotes : ∀ labels : List String,
      (labels.flatMap s.noteSights).takeWhile Sight.isNode = [] := by
    intro labels
    induction labels with
    | nil => rfl
    | cons label labels ih =>
        rw [List.flatMap_cons, noteSights]
        cases lookupEntry label s.definitions with
        | none => exact ih
        | some d => rfl
  rw [documentSights, List.takeWhile_append_of_pos (isNode_of_mem_sights root false), hnotes,
    List.append_nil]

end Scope

/-- A node is sighted where it is checked. -/
theorem sights_points (n : Node) : TreeCases
    (fun m => ∀ inList, .node n ∈ m.sights inList ↔ .construct n ∈ m.points inList)
    (fun ns => ∀ inList, .node n ∈ listSights inList ns ↔ .construct n ∈ listPoints inList ns)
    (fun ps => ∀ name, .node n ∈ passageSights name ps ↔ .construct n ∈ passagePoints name ps) where
  node kind ps cs hps hcs := by
    intro inList
    rw [Node.sights, Node.points]
    cases kind.role with
    | container => by_cases hitem : inList = true ∧ kind = .item <;> simp [hitem, hps, hcs]
    | headline =>
        cases isSuppressed ps with
        | true => simp
        | false =>
            simp [hps, hcs, or_left_comm]
    | link => simp [hcs, or_comm]
    | _ => simp [hcs]
  nil := fun _ => by simp [listSights, listPoints]
  cons m ns hm hns := fun inList => by simp [listSights, listPoints, hm, hns]
  bare := fun _ => by simp [passageSights, passagePoints]
  value name v ps hps := by
    intro sought
    rw [passageSights, passagePoints]
    split
    · simp
    · exact hps sought
  nodes name ns ps hns hps := by
    intro sought
    rw [passageSights, passagePoints]
    split
    · simp [hns]
    · exact hps sought

/-- The nodes that are sighted in a pass are those that it reaches. -/
theorem Scope.node_mem_documentSights {s : Scope} {root n : Node} :
    .node n ∈ s.documentSights root ↔ s.Reached root n := by
  have hnote : ∀ label, .node n ∈ s.noteSights label ↔ .construct n ∈ s.notePoints label := by
    intro label
    unfold noteSights notePoints
    cases lookupEntry label s.definitions with
    | none => simp
    | some d => simp [contentPoints, (sights_points n).holds_nodes d.children false]
  rw [reached_iff.1]
  simp [documentSights, documentPoints, Point.beginning, (sights_points n).holds root false, hnote]

/-! ### The least level -/

theorem lesserLevel_spec (a b : Value) :
    (lesserLevel a b = a ∨ lesserLevel a b = b) ∧
      (lesserLevel a b).integer?.getD 0 ≤ a.integer?.getD 0 ∧
      (lesserLevel a b).integer?.getD 0 ≤ b.integer?.getD 0 := by
  unfold lesserLevel
  split
  · exact ⟨.inr rfl, by omega, Int.le_refl _⟩
  · exact ⟨.inl rfl, Int.le_refl _, by omega⟩

theorem foldl_lesserLevel_spec (first : Value) (others : List Value) :
    others.foldl lesserLevel first ∈ first :: others ∧ ∀ v ∈ first :: others,
      (others.foldl lesserLevel first).integer?.getD 0 ≤ v.integer?.getD 0 := by
  induction others generalizing first with
  | nil => simp
  | cons v others ih =>
      obtain ⟨hmem, hle⟩ := ih (lesserLevel first v)
      obtain ⟨heq, hfirst, hv⟩ := lesserLevel_spec first v
      have hleast := hle _ List.mem_cons_self
      rw [List.foldl_cons]
      refine ⟨?_, ?_⟩
      · rcases List.mem_cons.1 hmem with h | h
        · rcases heq with heq | heq <;> rw [h, heq] <;> simp
        · simp [h]
      · intro u hu
        rcases List.mem_cons.1 hu with rfl | hu
        · omega
        · rcases List.mem_cons.1 hu with rfl | hu
          · omega
          · exact hle u (List.mem_cons_of_mem _ hu)

/-- The least level is one of the levels, and no level is lesser. -/
theorem topLevelOf_spec {ns : List Node} {v : Value} (hv : v ∈ ns.filterMap levelOf?) :
    topLevelOf ns ∈ ns.filterMap levelOf? ∧
      (topLevelOf ns).integer?.getD 0 ≤ v.integer?.getD 0 := by
  unfold topLevelOf
  cases hlevels : ns.filterMap levelOf? with
  | nil => simp [hlevels] at hv
  | cons first others =>
      obtain ⟨hmem, hle⟩ := foldl_lesserLevel_spec first others
      exact ⟨hmem, hle v (hlevels ▸ hv)⟩

/-- A headline with an integer as its level takes part in finding the least one. -/
theorem levelOf?_of_integer {n : Node} (hkind : n.kind = .headline) {level : Value} {k : Int}
    (hlevel : n.value? "level" = some level) (hk : level.integer? = some k) :
    levelOf? n = some level := by
  cases level <;> simp_all [levelOf?, Value.integer?]

/-! ### What a walk finds -/

/-- What a walk through a document has to do with the notes of a pass over it. -/
structure FoundByWalk (root : Node) (seen : List Sight) : Prop where
  /-- The walk sees each node that the pass comes to. -/
  nodes : ∀ n, .node n ∈ seen → n ∈ root.walk
  /-- The nodes that the pass comes to in the body are in the order of the walk, and none of them
  is there more often. -/
  order : (seen.takeWhile Sight.isNode).Sublist (root.walk.map .node)
  /-- The level of a headline that the pass comes to is among those whose least one the pass counts
  from, if it is an integer. -/
  levels : ∀ n level k, .node n ∈ seen → n.kind = .headline → n.value? "level" = some level →
    level.integer? = some k → level ∈ root.walk.filterMap levelOf? ∧
      (Scope.ofDocument root).topLevel ∈ root.walk.filterMap levelOf? ∧
      (Scope.ofDocument root).topLevel.integer?.getD 0 ≤ k
  /-- A definition that is listed is the first one with its label that the walk sees. -/
  definitions : ∀ d, .definition d ∈ seen → ∃ label, FootnoteTable.definedLabel? d = some label ∧
    root.walk.find? (fun n => FootnoteTable.definedLabel? n = some label) = some d

/-- A walk finds the sights of a pass, however many of them the pass has come to. -/
theorem FoundByWalk.of_beginning {root : Node} {seen : List Sight}
    (h : seen <+: (Scope.ofDocument root).documentSights root) : FoundByWalk root seen := by
  have hnodes : ∀ n, .node n ∈ seen → n ∈ root.preorder := fun n hn =>
    (Scope.node_mem_documentSights.1 (h.subset hn)).mem_preorder
  have horder : (seen.takeWhile Sight.isNode).Sublist (root.preorder.map .node) := by
    obtain ⟨rest, hrest⟩ := h
    have hbody := @Scope.takeWhile_documentSights (.ofDocument root) root
    rw [← hrest, List.takeWhile_append] at hbody
    refine List.Sublist.trans ?_ (sights_sublist.holds root false)
    rw [← hbody]
    split
    · exact (List.takeWhile_sublist _).trans (List.sublist_append_left _ _)
    · exact List.Sublist.refl _
  rw [← root.walk_eq] at hnodes horder
  refine ⟨hnodes, horder, fun n level k hn hkind hlevel hk => ?_, fun d hd => ?_⟩
  · have hmem : level ∈ root.walk.filterMap levelOf? :=
      List.mem_filterMap.2 ⟨n, hnodes n hn, levelOf?_of_integer hkind hlevel hk⟩
    rw [Scope.ofDocument, ← root.walk_eq]
    obtain ⟨htop, hle⟩ := topLevelOf_spec hmem
    rw [hk] at hle
    exact ⟨hmem, htop, hle⟩
  · obtain ⟨label, -, hd⟩ := Scope.definition_mem_documentSights.1 (h.subset hd)
    have hfirst := (lookupEntry_collect label root.preorder).symm.trans hd
    rw [← root.walk_eq] at hfirst
    exact ⟨label, by simpa using List.find?_some hfirst, hfirst⟩

/-- A pass over a document, watched. -/
def watchPass (o : Options) (root : Node) : Except Abort String × Watch :=
  (watchDocument (passEnvironment o root) root).runFrom {}

/-- **A walk sees every node that a pass comes to.** The watched pass runs as the pass, and it notes
all sights of the document if it succeeds; whatever it notes is found by the walk. -/
theorem watchPass_foundByWalk (o : Options) (root : Node) :
    ((watchPass o root).1, (watchPass o root).2.progress.record) = renderDocument o root ∧
      (∀ text, (watchPass o root).1 = .ok text →
        (watchPass o root).2.seen = (Scope.ofDocument root).documentSights root) ∧
      FoundByWalk root (watchPass o root).2.seen := by
  have ht := trims_passEnvironment o root
  obtain ⟨noted, hprefix, hall, hrun⟩ := document_watched ht rfl root
  have hpass : watchPass o root = _ := hrun []
  rw [hpass, List.nil_append]
  exact ⟨(renderDocument_eq o root).symm, hall, .of_beginning hprefix⟩

end ForumMarkup
