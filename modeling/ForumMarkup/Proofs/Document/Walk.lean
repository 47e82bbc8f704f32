import ForumMarkup.Expression.Draft
import ForumMarkup.Proofs.Document.Preorder
import ForumMarkup.Proofs.Document.Serial
import Mathlib.Data.List.Forall2
/-
**Walking through a tree.**

A tree is walked through with a stack of the nodes that are still to be seen.  Each turn takes the
last node of the stack and puts the nodes that it holds in its place, the last of them first.  The
stack grows and shrinks meanwhile, but the lists of the trees that stand on it, one after the other,
only lose their first node.  So the walk ends after one turn for each node, and it has seen the list
that recursion gives.

A walk asks of a node only which nodes it holds.  What is said here of trees therefore holds of
drafts too, whose passages may have values among their nodes; a walk passes over these.

Main definitions:

* `ForumMarkup.Walk`, `ForumMarkup.Walk.turn`, `ForumMarkup.Walk.turns` — a walk and its turns;
* `ForumMarkup.IsPreorder` — lists that are given by recursion: a node, and the lists of the nodes
  that it holds;
* `ForumMarkup.nodeAt?`, `ForumMarkup.DocumentOrder` — the places of a tree, and a list of the nodes
  at all of them in order;
* `ForumMarkup.DraftNode.held`, `ForumMarkup.DraftNode.preorder` — the nodes in a draft;
* `ForumMarkup.DraftNode.SettlesAs` — what a draft has to do with the tree that it is settled as;
* `ForumMarkup.WalkedThrough` — what is said of the walk through a tree.

Main results:

* `ForumMarkup.Walk.turns_reverse` — a walk from any stack;
* `ForumMarkup.walk_eq` — the loop that takes its nodes from the front sees the same;
* `ForumMarkup.IsPreorder.exists_documentOrder` — recursion lists every place once, in order;
* `ForumMarkup.walk_documentOrder` — **a walk sees the nodes of a tree in document order**.
-/

set_option autoImplicit false

namespace ForumMarkup

/-! ### Turns -/

/-- The state of a walk: the nodes that are still to be seen, the next one last, and those that have
been seen. -/
structure Walk (α : Type) where
  stack : List α
  seen : List α := []

section

variable {α : Type} (held : α → List α)

namespace Walk

/-- One turn of a walk.  There is none when the stack is empty. -/
def turn (w : Walk α) : Option (Walk α) :=
  w.stack.getLast?.map fun a =>
    { stack := w.stack.dropLast ++ (held a).reverse, seen := w.seen ++ [a] }

/-- A number of turns one after the other. -/
def turns : Nat → Walk α → Option (Walk α)
  | 0, w => some w
  | k + 1, w => (w.turn held).bind (turns k)

end Walk

/-- Lists that are given by recursion: a node, and then the lists of the nodes that it holds. -/
def IsPreorder (pre : α → List α) : Prop :=
  ∀ a, pre a = a :: (held a).flatMap pre

variable {held} {pre : α → List α}

namespace Walk

theorem turn_reverse_cons (a : α) (rest seen : List α) :
    turn held { stack := (a :: rest).reverse, seen := seen } =
      some { stack := (held a ++ rest).reverse, seen := seen ++ [a] } := by
  simp [turn]

/-- A walk from any stack ends, after one turn for each node of the trees on it.  The measure is the
list of these nodes, which loses its first one at each turn. -/
theorem turns_reverse (h : IsPreorder held pre) (stack seen : List α) :
    turns held (stack.flatMap pre).length { stack := stack.reverse, seen := seen } =
      some { stack := [], seen := seen ++ stack.flatMap pre } := by
  induction hk : (stack.flatMap pre).length generalizing stack seen with
  | zero =>
      cases stack with
      | nil => simp [turns]
      | cons a rest => simp [h a] at hk
  | succ k ih =>
      cases stack with
      | nil => simp at hk
      | cons a rest =>
          have hnext : (a :: rest).flatMap pre = a :: (held a ++ rest).flatMap pre := by
            rw [List.flatMap_cons, h a, List.flatMap_append, List.cons_append]
          have hlength : ((held a ++ rest).flatMap pre).length = k := by
            simpa only [hnext, List.length_cons, Nat.add_right_cancel_iff] using hk
          rw [turns, turn_reverse_cons, Option.bind_some, ih _ _ hlength, hnext,
            List.append_assoc, List.singleton_append]

end Walk

/-! ### Places -/

variable (held)

/-- The node at a place.  A place tells, from the root on, which of the nodes that are held comes
next. -/
def nodeAt? : α → List Nat → Option α
  | a, [] => some a
  | a, i :: place => (held a)[i]?.bind fun c => nodeAt? c place

/-- The node at a place in a list of trees. -/
def nodeIn? (as : List α) : List Nat → Option α
  | [] => none
  | i :: place => as[i]?.bind fun c => nodeAt? held c place

variable {held}

/-- Nodes are listed in document order: `places` has every place at which there is a node, in order
and thus only once, and the nodes are those at the places.  A place comes before the places below
it, and these are in the order of the nodes that are held. -/
structure DocumentOrder (look : List Nat → Option α) (as : List α) (places : List (List Nat)) :
    Prop where
  ordered : places.Pairwise (· < ·)
  complete : ∀ place, place ∈ places ↔ (look place).isSome
  nodes : places.map look = as.map some

namespace DocumentOrder

theorem nil : DocumentOrder (nodeIn? held []) [] [] where
  ordered := .nil
  complete place := by cases place <;> simp [nodeIn?]
  nodes := rfl

theorem ne_nil {cs as : List α} {places : List (List Nat)}
    (h : DocumentOrder (nodeIn? held cs) as places) {place : List Nat} (hplace : place ∈ places) :
    ∃ i rest, place = i :: rest := by
  cases place with
  | nil => cases (h.complete []).1 hplace
  | cons i rest => exact ⟨i, rest, rfl⟩

/-- The places in a list of trees are those in the first tree and those in the others. -/
theorem cons {c : α} {cs as bs : List α} {places places' : List (List Nat)}
    (h : DocumentOrder (nodeAt? held c) as places)
    (h' : DocumentOrder (nodeIn? held cs) bs places') :
    DocumentOrder (nodeIn? held (c :: cs)) (as ++ bs)
      (places.map (0 :: ·) ++ places'.map (List.modifyHead (· + 1))) where
  ordered := by
    refine List.pairwise_append.2 ⟨?_, ?_, ?_⟩
    · exact List.pairwise_map.2 (h.ordered.imp fun hlt => List.cons_lt_cons_iff.2 (.inr ⟨rfl, hlt⟩))
    · refine List.pairwise_map.2 (h'.ordered.imp_of_mem fun {p q} hp hq hlt => ?_)
      obtain ⟨i, p, rfl⟩ := h'.ne_nil hp
      obtain ⟨j, q, rfl⟩ := h'.ne_nil hq
      simpa [List.cons_lt_cons_iff] using hlt
    · intro p hp q hq
      obtain ⟨p, -, rfl⟩ := List.mem_map.1 hp
      obtain ⟨q', hq', rfl⟩ := List.mem_map.1 hq
      obtain ⟨j, q', rfl⟩ := h'.ne_nil hq'
      exact List.cons_lt_cons_iff.2 (.inl (Nat.succ_pos j))
  complete place := by
    rw [List.mem_append, List.mem_map, List.mem_map]
    constructor
    · rintro (⟨p, hp, rfl⟩ | ⟨q, hq, rfl⟩)
      · exact (h.complete p).1 hp
      · obtain ⟨j, q, rfl⟩ := h'.ne_nil hq
        exact (h'.complete _).1 hq
    · intro hplace
      cases place with
      | nil => cases hplace
      | cons i rest =>
          cases i with
          | zero => exact .inl ⟨rest, (h.complete rest).2 hplace, rfl⟩
          | succ i => exact .inr ⟨i :: rest, (h'.complete _).2 hplace, rfl⟩
  nodes := by
    have hlater : ∀ q ∈ places', nodeIn? held (c :: cs) (q.modifyHead (· + 1)) =
        nodeIn? held cs q := by
      intro q hq
      obtain ⟨j, q, rfl⟩ := h'.ne_nil hq
      rfl
    rw [List.map_append, List.map_map, List.map_map, List.map_append, ← h.nodes, ← h'.nodes,
      ← List.map_congr_left hlater]
    rfl

/-- The places of a tree are its root and those in the list of the nodes that the root holds. -/
theorem node {a : α} {as : List α} {places : List (List Nat)}
    (h : DocumentOrder (nodeIn? held (held a)) as places) :
    DocumentOrder (nodeAt? held a) (a :: as) ([] :: places) where
  ordered := by
    refine List.pairwise_cons.2 ⟨fun place hplace => ?_, h.ordered⟩
    obtain ⟨i, rest, rfl⟩ := h.ne_nil hplace
    exact List.nil_lt_cons i rest
  complete place := by
    cases place with
    | nil => simp [nodeAt?]
    | cons i rest =>
        rw [List.mem_cons, or_iff_right (List.cons_ne_nil i rest)]
        exact h.complete (i :: rest)
  nodes := by
    have hbelow : ∀ place ∈ places, nodeAt? held a place = nodeIn? held (held a) place := by
      intro place hplace
      obtain ⟨i, rest, rfl⟩ := h.ne_nil hplace
      rfl
    rw [List.map_cons, List.map_cons, ← h.nodes, List.map_congr_left hbelow]
    rfl

end DocumentOrder

namespace IsPreorder

theorem length_lt (h : IsPreorder held pre) {a c : α} (hc : c ∈ held a) :
    (pre c).length < (pre a).length := by
  obtain ⟨before, after, hheld⟩ := List.append_of_mem hc
  rw [h a, hheld, List.flatMap_append, List.flatMap_cons]
  simp only [List.length_cons, List.length_append]
  omega

/-- Recursion lists every place once, in order. -/
theorem exists_documentOrder (h : IsPreorder held pre) (a : α) :
    ∃ places, DocumentOrder (nodeAt? held a) (pre a) places := by
  induction hk : (pre a).length using Nat.strongRecOn generalizing a with
  | ind k ih =>
      have hlist : ∀ cs : List α, (∀ c ∈ cs, (pre c).length < k) →
          ∃ places, DocumentOrder (nodeIn? held cs) (cs.flatMap pre) places := by
        intro cs hcs
        induction cs with
        | nil => exact ⟨[], .nil⟩
        | cons c cs ihcs =>
            obtain ⟨places, hplaces⟩ := ih _ (hcs c List.mem_cons_self) c rfl
            obtain ⟨places', hplaces'⟩ := ihcs fun d hd => hcs d (List.mem_cons_of_mem c hd)
            exact ⟨_, hplaces.cons hplaces'⟩
      obtain ⟨places, hplaces⟩ := hlist (held a) fun c hc => hk ▸ h.length_lt hc
      rw [h a]
      exact ⟨_, hplaces.node⟩

end IsPreorder

end

/-! ### Trees -/

theorem Node.isPreorder : IsPreorder Node.held Node.preorder := by
  intro n
  rw [n.preorder_eq, Node.held, List.flatMap_append, List.flatMap_append]

/-- The loop that takes its nodes from the front of a stack sees the same list. -/
theorem walk_eq (stack : List Node) : walk stack = stack.flatMap Node.preorder := by
  induction stack using walk.induct with
  | case1 =>
      rw [walk]
      rfl
  | case2 n stack ih =>
      rw [walk, ih, List.flatMap_append, List.flatMap_cons, Node.isPreorder n, List.cons_append]

theorem Node.walk_eq (n : Node) : n.walk = n.preorder := by
  rw [Node.walk, ForumMarkup.walk_eq, List.flatMap_cons, List.flatMap_nil, List.append_nil]

/-! ### Drafts -/

/-- A draft of a node, by its parts. -/
structure DraftNode where
  kind : Kind
  properties : List (String × Draft)
  children : List Draft

/-- The node that a draft is one of; values and lists are drafts of none. -/
def Draft.node? : Draft → Option DraftNode
  | .node kind ps cs => some { kind := kind, properties := ps, children := cs }
  | _ => none

namespace DraftNode

/-- The nodes in the list under a name.  What else is in the list is passed over, and anything but a
list holds none. -/
def passage (name : String) (n : DraftNode) : List DraftNode :=
  match lookupEntry name n.properties with
  | some (.list items) => items.filterMap Draft.node?
  | _ => []

/-- The nodes directly below a draft of a node, in document order.  All children of a draft that is
one of a tree are nodes. -/
def held (n : DraftNode) : List DraftNode :=
  n.passage "title" ++ n.passage "tag" ++ n.children.filterMap Draft.node?

/-- The tree of a draft of a node. -/
def toNode (n : DraftNode) : Except BuildFault Node :=
  (Draft.node n.kind n.properties n.children).toNode

end DraftNode

mutual
/-- The nodes in a draft, in document order. -/
def Draft.preorder : Draft → List DraftNode
  | .node kind ps cs =>
    { kind := kind, properties := ps, children := cs } ::
      (draftsUnder "title" ps ++ draftsUnder "tag" ps ++ draftPreorders cs)
  | _ => []
/-- The nodes in the list under a name, in document order. -/
def draftsUnder (name : String) : List (String × Draft) → List DraftNode
  | [] => []
  | (k, .list items) :: rest => if k == name then draftPreorders items else draftsUnder name rest
  | (k, _) :: rest => if k == name then [] else draftsUnder name rest
/-- The nodes in a list of drafts, in document order. -/
def draftPreorders : List Draft → List DraftNode
  | [] => []
  | d :: ds => d.preorder ++ draftPreorders ds
end

/-- The nodes in a draft of a node, in document order. -/
def DraftNode.preorder (n : DraftNode) : List DraftNode :=
  (Draft.node n.kind n.properties n.children).preorder

theorem draftPreorders_eq (ds : List Draft) :
    draftPreorders ds = (ds.filterMap Draft.node?).flatMap DraftNode.preorder := by
  induction ds with
  | nil => rfl
  | cons d ds ih =>
      cases d with
      | node kind ps cs => simp [draftPreorders, ih, Draft.node?, DraftNode.preorder]
      | value v =>
          rw [draftPreorders, ih, List.filterMap_cons_none rfl]
          rfl
      | list items =>
          rw [draftPreorders, ih, List.filterMap_cons_none rfl]
          rfl

theorem draftsUnder_eq (name : String) (n : DraftNode) :
    draftsUnder name n.properties = (n.passage name).flatMap DraftNode.preorder := by
  obtain ⟨kind, ps, cs⟩ := n
  rw [DraftNode.passage]
  induction ps with
  | nil => rfl
  | cons p ps ih =>
      obtain ⟨k, d⟩ := p
      by_cases hk : (k == name) = true
      · cases d <;> simp [draftsUnder, lookupEntry, hk, draftPreorders_eq]
      · cases d <;> simpa only [draftsUnder, lookupEntry, if_neg hk] using ih

theorem DraftNode.isPreorder : IsPreorder DraftNode.held DraftNode.preorder := by
  intro n
  rw [preorder, Draft.preorder, draftsUnder_eq, draftsUnder_eq, draftPreorders_eq, held,
    List.flatMap_append, List.flatMap_append]

/-! ### Drafts that are settled -/

/-- A draft of a node is settled as a tree. -/
def DraftNode.SettlesAs (m : DraftNode) (n : Node) : Prop := m.toNode = .ok n

/-- The properties of a settled draft, when the first of them is a list. -/
theorem toProperties_list {name : String} {items : List Draft} {rest : List (String × Draft)}
    {qs : List (String × Property)}
    (h : Draft.toProperties ((name, .list items) :: rest) = .ok qs) :
    ∃ p qs', qs = (name, p) :: qs' ∧ Draft.toProperties rest = .ok qs' ∧
      (isPassageName name = true → ∃ ns, p = .nodes ns ∧ Draft.toNodes items = .ok ns) := by
  rw [Draft.toProperties] at h
  cases hname : isPassageName name with
  | true =>
      simp only [hname, if_true] at h
      obtain ⟨ns, hns, h⟩ := bind_eq_ok.1 h
      obtain ⟨qs', hqs', h⟩ := bind_eq_ok.1 h
      cases h
      exact ⟨_, qs', rfl, hqs', fun _ => ⟨ns, rfl, hns⟩⟩
  | false =>
      simp only [hname, Bool.false_eq_true, if_false] at h
      cases hvs : Draft.toValues? items with
      | none => simp [hvs] at h
      | some vs =>
          rw [hvs] at h
          obtain ⟨qs', hqs', h⟩ := bind_eq_ok.1 h
          cases h
          exact ⟨_, qs', rfl, hqs', nofun⟩

mutual
/-- A draft that is settled has the nodes of its tree, one by one. -/
theorem Draft.preorder_of_toNode : ∀ (d : Draft) (n : Node), d.toNode = .ok n →
    List.Forall₂ DraftNode.SettlesAs d.preorder n.preorder
  | .node kind ps cs, n, h => by
    have hself : DraftNode.SettlesAs { kind := kind, properties := ps, children := cs } n := h
    rw [Draft.toNode] at h
    obtain ⟨qs, hqs, h⟩ := bind_eq_ok.1 h
    obtain ⟨ns, hns, h⟩ := bind_eq_ok.1 h
    cases h
    have htitle := draftsUnder_of_toProperties "title" rfl ps qs hqs
    have htag := draftsUnder_of_toProperties "tag" rfl ps qs hqs
    rw [Draft.preorder, Node.preorder]
    exact .cons hself (List.rel_append (List.rel_append htitle htag)
      (draftPreorders_of_toNodes cs ns hns))
  | .value v, n, h => by simp [Draft.toNode] at h
  | .list items, n, h => by simp [Draft.toNode] at h
theorem draftsUnder_of_toProperties (name : String) (hname : isPassageName name = true) :
    ∀ (ps : List (String × Draft)) (qs : List (String × Property)), Draft.toProperties ps = .ok qs →
      List.Forall₂ DraftNode.SettlesAs (draftsUnder name ps) (preorderUnder name qs)
  | [], qs, h => by
    cases h
    exact .nil
  | (k, .value v) :: rest, qs, h => by
    rw [Draft.toProperties] at h
    obtain ⟨qs', hqs', h⟩ := bind_eq_ok.1 h
    cases h
    have hrest := draftsUnder_of_toProperties name hname rest qs' hqs'
    by_cases hk : (k == name) = true
    · simp [draftsUnder, preorderUnder, hk]
    · simpa only [draftsUnder, preorderUnder, if_neg hk] using hrest
  | (k, .list items) :: rest, qs, h => by
    obtain ⟨p, qs', rfl, hqs', hpassage⟩ := toProperties_list h
    have hrest := draftsUnder_of_toProperties name hname rest qs' hqs'
    by_cases hk : (k == name) = true
    · obtain ⟨ns, rfl, hns⟩ := hpassage (beq_iff_eq.1 hk ▸ hname)
      simpa only [draftsUnder, preorderUnder, if_pos hk] using
        draftPreorders_of_toNodes items ns hns
    · cases p <;> simpa only [draftsUnder, preorderUnder, if_neg hk] using hrest
  | (k, .node _ _ _) :: _, qs, h => by simp [Draft.toProperties] at h
theorem draftPreorders_of_toNodes : ∀ (ds : List Draft) (ns : List Node),
    Draft.toNodes ds = .ok ns →
      List.Forall₂ DraftNode.SettlesAs (draftPreorders ds) (preorders ns)
  | [], ns, h => by
    cases h
    exact .nil
  | d :: ds, ns, h => by
    rw [Draft.toNodes] at h
    obtain ⟨n, hn, h⟩ := bind_eq_ok.1 h
    obtain ⟨ns', hns', h⟩ := bind_eq_ok.1 h
    cases h
    rw [draftPreorders, preorders]
    exact List.rel_append (d.preorder_of_toNode n hn) (draftPreorders_of_toNodes ds ns' hns')
end

/-! ### What a walk sees -/

/-- What is said of the walk through a tree, when nodes hold `held` and `pre` lists them. -/
structure WalkedThrough {α : Type} (held pre : α → List α) (root : α) : Prop where
  /-- The list is given by recursion. -/
  recursion : IsPreorder held pre
  /-- The walk ends after one turn for each node, and has seen the list. -/
  ends : Walk.turns held (pre root).length { stack := [root] } =
    some { stack := [], seen := pre root }
  /-- The list has the node at every place of the tree, each of them once, in order. -/
  order : ∃ places, DocumentOrder (nodeAt? held root) (pre root) places

theorem IsPreorder.walkedThrough {α : Type} {held pre : α → List α} (h : IsPreorder held pre)
    (root : α) : WalkedThrough held pre root where
  recursion := h
  ends := by simpa using Walk.turns_reverse h [root] []
  order := h.exists_documentOrder root

/-- **A walk sees the nodes of a tree in document order**, each of them once.  The same holds of
drafts, in whose passages a walk passes over what is no node; and a walk through a draft that is
settled sees drafts of the nodes of its tree, one by one. -/
theorem walk_documentOrder :
    (∀ root : Node, root.walk = root.preorder ∧ WalkedThrough Node.held Node.preorder root) ∧
      ∀ root : DraftNode, WalkedThrough DraftNode.held DraftNode.preorder root ∧
        ∀ tree, root.toNode = .ok tree →
          List.Forall₂ DraftNode.SettlesAs root.preorder tree.preorder :=
  ⟨fun root => ⟨root.walk_eq, Node.isPreorder.walkedThrough root⟩, fun root =>
    ⟨DraftNode.isPreorder.walkedThrough root, fun tree htree =>
      Draft.preorder_of_toNode _ tree htree⟩⟩

/-- The theorem at a headline with a word in its title and a section below it. -/
theorem walk_documentOrder_headline :
    let word : Draft := .node .plainText [("value", .value (.text "a"))] []
    let root : DraftNode :=
      { kind := .headline, properties := [("title", .list [word])]
        children := [.node .section [] []] }
    let tree : Node := .mk .headline
      [("title", .nodes [.mk .plainText [("value", .value (.text "a"))] []])] [.mk .section [] []]
    root.toNode = .ok tree ∧ tree.walk.map Node.kind = [.headline, .plainText, .section] ∧
      List.Forall₂ DraftNode.SettlesAs root.preorder tree.walk := by
  intro word root tree
  have htree : root.toNode = .ok tree := rfl
  have hwalk : tree.walk = tree.preorder := (walk_documentOrder.1 tree).1
  rw [hwalk]
  exact ⟨htree, rfl, (walk_documentOrder.2 root).2 tree htree⟩

example :
    let title := Draft.list [.value (.text "of"), .node .bold [] [.node .plainText [] []]]
    let root : DraftNode :=
      { kind := .headline, properties := [("title", title)], children := [.node .section [] []] }
    root.preorder.map DraftNode.kind = [.headline, .bold, .plainText, .section] := by
  decide

end ForumMarkup
