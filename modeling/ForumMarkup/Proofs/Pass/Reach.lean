import ForumMarkup.Proofs.Document.Preorder
import ForumMarkup.Proofs.Pass.Notes
import Mathlib.Tactic.Tauto
/-
**The nodes that a pass reaches.**

A pass does not look at all nodes of a document.  It goes from a node to its children or to its
title, if the kind of the node says so, from a descriptive list to the terms of its items, and from
a reference to the contents of the definition of its label, which it comes to after the body.

Main definitions:

* `ForumMarkup.Node.opens`, `ForumMarkup.Node.passageRead?` — whether a pass goes into the children
  of a node, and which of its passages it reads;
* `ForumMarkup.Scope.Reached` — the nodes that a pass reaches.

Main results:

* `ForumMarkup.Node.mem_points`, `ForumMarkup.mem_listPoints`, `ForumMarkup.mem_passagePoints` — the
  points of a tree, by its parts;
* `ForumMarkup.Scope.reached_iff` — **the nodes that a pass reaches are those that it checks**, and
  those whose blanks it adds.
-/

set_option autoImplicit false

namespace ForumMarkup

/-! ### The points of a tree by its parts -/

/-- Whether a pass goes into the children of a node. -/
def Node.opens : Node → Bool
  | .mk kind ps _ =>
    match kind.role with
    | .container | .list | .link => true
    | .headline => !isSuppressed ps
    | _ => false

/-- The passage of a node that a pass reads: the title of a headline, and the term of an item in a
descriptive list. -/
def Node.passageRead? (inList : Bool) : Node → Option String
  | .mk kind ps _ =>
    if kind = .headline ∧ isSuppressed ps = false then some "title"
    else if kind = .item ∧ inList = true then some "tag"
    else none

/-- Whether the items among the children of a node have terms. -/
def Node.listsTerms (n : Node) : Bool :=
  n.kind = .plainList && isDescriptive n.properties

theorem Node.passageRead?_eq_some {n : Node} {inList : Bool} {name : String}
    (h : n.passageRead? inList = some name) :
    (name = "title" ∧ n.kind = .headline ∧ n.opens = true) ∨
      (name = "tag" ∧ n.kind = .item ∧ inList = true) := by
  obtain ⟨kind, ps, cs⟩ := n
  simp only [passageRead?] at h
  split at h
  · rename_i hheadline
    obtain ⟨rfl, hsuppressed⟩ := hheadline
    exact .inl ⟨(Option.some.inj h).symm, rfl, by simp [opens, Kind.role, hsuppressed]⟩
  · split at h
    · rename_i hitem
      exact .inr ⟨(Option.some.inj h).symm, hitem⟩
    · cases h

theorem Node.passageRead?_title {n : Node} (hkind : n.kind = .headline) (hopens : n.opens = true)
    (inList : Bool) : n.passageRead? inList = some "title" := by
  obtain ⟨kind, ps, cs⟩ := n
  cases hkind
  have hsuppressed : isSuppressed ps = false := by simpa [opens, Kind.role] using hopens
  simp [passageRead?, hsuppressed]

theorem Node.passageRead?_tag {n : Node} (hkind : n.kind = .item) :
    n.passageRead? true = some "tag" := by
  obtain ⟨kind, ps, cs⟩ := n
  cases hkind
  rfl

theorem Node.opens_of_listsTerms {n : Node} (h : n.listsTerms = true) : n.opens = true := by
  obtain ⟨kind, ps, cs⟩ := n
  have hkind : kind = .plainList := by
    simp only [listsTerms, Bool.and_eq_true, decide_eq_true_eq] at h
    exact h.1
  rw [hkind]
  rfl

theorem Node.numbered?_of_defined {s : Scope} {n d : Node} (hkind : n.kind = .footnoteReference)
    (hinline : isInlineFootnote n.properties n.children = false)
    (hshown : isShowableIn "label" n.properties = true)
    (hd : lookupEntry (labelIn n.properties) s.definitions = some d) :
    n.numbered? (some s) = some (labelIn n.properties) := by
  obtain ⟨kind, ps, cs⟩ := n
  cases hkind
  have hinline' : isInlineFootnote ps cs = false := hinline
  have hshown' : isShowableIn "label" ps = true := hshown
  have hd' : lookupEntry (labelIn ps) s.definitions = some d := hd
  simp [numbered?, hinline', hshown', Scope.defines, hd', properties]

theorem Node.mem_points {m : Point} {n : Node} {inList : Bool} :
    m ∈ n.points inList ↔ m = .construct n ∨ (m = .parts n ∧ n.kind = .link) ∨
      (m = .level n ∧ n.kind = .headline ∧ n.opens = true) ∨
      (∃ name, n.passageRead? inList = some name ∧ m ∈ passagePoints name n.properties) ∨
      (n.opens = true ∧ (m ∈ listPoints n.listsTerms n.children ∨ m = .joined n.children)) := by
  obtain ⟨kind, ps, cs⟩ := n
  have hheadline : kind.role ≠ .headline → kind ≠ .headline := mt fun e => e ▸ rfl
  have hlist : kind.role ≠ .list → kind ≠ .plainList := mt fun e => e ▸ rfl
  have hitem : kind.role ≠ .container → kind ≠ .item := mt fun e => e ▸ rfl
  have hlink : kind.role ≠ .link → kind ≠ .link := mt fun e => e ▸ rfl
  rw [Node.points]
  cases h : kind.role with
  | container =>
      have hheadline := hheadline (by simp [h])
      have hlist := hlist (by simp [h])
      have hlink := hlink (by simp [h])
      by_cases hterm : inList = true ∧ kind = .item
      · obtain ⟨rfl, rfl⟩ := hterm
        simp [opens, passageRead?, listsTerms, Node.kind, properties, children, Kind.role]
      · have hterm' : ¬(kind = .item ∧ inList = true) := fun e => hterm ⟨e.2, e.1⟩
        simp [opens, h, passageRead?, hheadline, hlist, hlink, hterm, hterm', listsTerms,
          Node.kind, children]
  | headline =>
      cases Kind.eq_headline h
      cases hsuppressed : isSuppressed ps with
      | true => simp [opens, h, passageRead?, hsuppressed, Node.kind]
      | false =>
          simp only [Bool.false_eq_true, if_false, List.mem_cons, List.mem_append, opens, h,
            passageRead?, hsuppressed, listsTerms, Node.kind, properties, children]
          simp
          tauto
  | list =>
      cases Kind.eq_plainList h
      simp [opens, h, passageRead?, listsTerms, Node.kind, properties, children]
  | link =>
      cases Kind.eq_link h
      simp [opens, h, passageRead?, listsTerms, Node.kind, children, or_comm, or_left_comm,
        or_assoc]
  | _ =>
      have hheadline := hheadline (by simp [h])
      have hitem := hitem (by simp [h])
      have hlink := hlink (by simp [h])
      simp [opens, h, passageRead?, hheadline, hitem, hlink, Node.kind]

theorem mem_listPoints {m : Point} {inList : Bool} {ns : List Node} :
    m ∈ listPoints inList ns ↔ ∃ n ∈ ns, m ∈ n.points inList ∨ m = .blanks n := by
  induction ns with
  | nil => simp [listPoints]
  | cons n ns ih => simp [listPoints, ih, or_assoc]

theorem mem_passagePoints {m : Point} {name : String} {ps : List (String × Property)} :
    m ∈ passagePoints name ps ↔
      (∃ ns, lookupEntry name ps = some (.nodes ns) ∧
        (m ∈ listPoints false ns ∨ m = .joined ns)) ∨
      ∃ v, lookupEntry name ps = some (.value v) ∧ m = .worded v := by
  induction ps with
  | nil => simp [passagePoints, lookupEntry]
  | cons p ps ih =>
      obtain ⟨k, p⟩ := p
      cases p <;> by_cases hk : k = name <;> simp [passagePoints, lookupEntry, hk, ih]

/-! ### Reaching -/

/-- The node that a point checks, or whose parts it shows, or whose blanks it adds. -/
def Point.node? : Point → Option Node
  | .parts n => some n
  | .construct n => some n
  | .blanks n => some n
  | _ => none

namespace Scope

variable (s : Scope) (root : Node)

/-- The nodes that a pass over a document reaches. -/
inductive Reached : Node → Prop
  | root : Reached root
  /-- A child of a node whose children a pass goes into. -/
  | child {n c : Node} : Reached n → n.opens = true → c ∈ n.children → Reached c
  /-- A node in the title of a headline that is not left out. -/
  | title {n c : Node} : Reached n → n.kind = .headline → n.opens = true →
      c ∈ passageIn "title" n.properties → Reached c
  /-- A node in the term of an item in a descriptive list. -/
  | term {n item c : Node} : Reached n → n.listsTerms = true → item ∈ n.children →
      item.kind = .item → c ∈ passageIn "tag" item.properties → Reached c
  /-- A child of the definition of a label to which a reference refers, if that can be shown. -/
  | note {n d c : Node} : Reached n → n.kind = .footnoteReference →
      isInlineFootnote n.properties n.children = false →
      isShowableIn "label" n.properties = true →
      lookupEntry (labelIn n.properties) s.definitions = some d → c ∈ d.children → Reached c

variable {s root}

/-- A pass that comes to a tree only comes to nodes that it reaches. -/
theorem Reached.of_mem_points {n : Node} {inList : Bool} (h : s.Reached root n)
    (hterm : inList = true → n.kind = .item →
      ∀ c ∈ passageIn "tag" n.properties, s.Reached root c)
    {m : Point} {c : Node} (hm : m ∈ n.points inList) (hc : m.node? = some c) :
    s.Reached root c := by
  -- Trees are followed downwards, so that reaching a node is known before its parts are looked at.
  induction n using Node.induction generalizing inList with
  | h n hcs hps =>
      rcases Node.mem_points.1 hm with rfl | ⟨rfl, -⟩ | ⟨rfl, -⟩ | ⟨name, hname, hm⟩ |
        ⟨hopens, hm | rfl⟩
      · cases hc
        exact h
      · cases hc
        exact h
      · cases hc
      · have hread : ∀ d ∈ passageIn name n.properties, s.Reached root d := by
          intro d hd
          rcases Node.passageRead?_eq_some hname with ⟨rfl, hkind, hopens⟩ | ⟨rfl, hkind, rfl⟩
          · exact h.title hkind hopens hd
          · exact hterm rfl hkind d hd
        rcases mem_passagePoints.1 hm with ⟨ns, hns, hm | rfl⟩ | ⟨v, -, rfl⟩
        · have hpassage : passageIn name n.properties = ns := by simp [passageIn, hns]
          obtain ⟨c', hc', hm | rfl⟩ := mem_listPoints.1 hm
          · have hc' := hpassage.symm ▸ hc'
            exact hps name c' hc' (hread c' hc') (by simp) hm
          · cases hc
            exact hread _ (hpassage.symm ▸ hc')
        · cases hc
        · cases hc
      · obtain ⟨c', hc', hm | rfl⟩ := mem_listPoints.1 hm
        · refine hcs c' hc' (h.child hopens hc') (fun hlists hitem => ?_) hm
          exact fun d hd => h.term hlists hc' hitem hd
        · cases hc
          exact h.child hopens hc'
      · cases hc

theorem Reached.of_mem_contentPoints {ns : List Node} (h : ∀ c ∈ ns, s.Reached root c)
    {m : Point} {c : Node} (hm : m ∈ contentPoints ns) (hc : m.node? = some c) :
    s.Reached root c := by
  rcases List.mem_append.1 hm with hm | hm
  · obtain ⟨c', hc', hm | rfl⟩ := mem_listPoints.1 hm
    · exact (h c' hc').of_mem_points (by simp) hm hc
    · cases hc
      exact h _ hc'
  · cases List.mem_singleton.1 hm
    cases hc

/-- A label that a reached reference numbers has a definition whose children are reached. -/
theorem Reached.of_numbered {ms : List Point}
    (h : ∀ m ∈ ms, ∀ c, m.node? = some c → s.Reached root c) {label : String}
    (hl : label ∈ numberedIn (some s) ms) {d c : Node}
    (hd : lookupEntry label s.definitions = some d) (hc : c ∈ d.children) : s.Reached root c := by
  obtain ⟨m, hm, hnumbered⟩ := List.mem_filterMap.1 hl
  cases m with
  | construct n =>
      obtain ⟨kind, ps, cs⟩ := n
      have hreached := h _ hm _ rfl
      simp only [Point.numbered?, Node.numbered?, Option.ite_none_right_eq_some,
        Option.some.injEq] at hnumbered
      obtain ⟨⟨rfl, hinline⟩, hshown, rfl⟩ := hnumbered
      exact hreached.note rfl hinline (Bool.and_eq_true_iff.1 hshown).1 hd hc
  | _ => cases hnumbered

/-- The definitions that are written hold reached nodes only.  The list of footnotes grows while it
is written, so the induction is on the order in which it is. -/
theorem Reached.of_mem_noteOrder {labels : List String}
    (h : ∀ label ∈ labels, ∀ d, lookupEntry label s.definitions = some d →
      ∀ c ∈ d.children, s.Reached root c) {bound place : Nat} {label : String}
    (hl : label ∈ s.noteOrder bound place labels) {d c : Node}
    (hd : lookupEntry label s.definitions = some d) (hc : c ∈ d.children) : s.Reached root c := by
  induction bound generalizing place labels with
  | zero => cases hl
  | succ bound ih =>
      cases hnext : labels[place]? with
      | none =>
          simp only [noteOrder, hnext] at hl
          cases hl
      | some next =>
          -- The definition that comes next is reached, and so are those whose labels it numbers.
          simp only [noteOrder, hnext] at hl
          have hnextReached := h next (List.mem_of_getElem? hnext)
          rcases List.mem_cons.1 hl with rfl | hl
          · exact hnextReached d hd c hc
          · refine ih (fun l hl => ?_) hl
            rcases mem_addLabels.1 hl with hl | hl
            · exact h l hl
            · intro d' hd' c' hc'
              refine Reached.of_numbered (fun m hm n hn => ?_) hl hd' hc'
              unfold notePoints at hm
              split at hm
              · rename_i d'' hd''
                exact Reached.of_mem_contentPoints (hnextReached d'' hd'') hm hn
              · cases hm

/-- All nodes that a pass comes to are reached. -/
theorem Reached.of_mem_documentPoints {m : Point} {c : Node} (hm : m ∈ s.documentPoints root)
    (hc : m.node? = some c) : s.Reached root c := by
  have hbody : ∀ m ∈ root.points false, ∀ c, m.node? = some c → s.Reached root c :=
    fun m hm c hc => Reached.root.of_mem_points (by simp) hm hc
  simp only [documentPoints, List.mem_cons, List.mem_append, List.not_mem_nil, or_false] at hm
  rcases hm with rfl | hm | rfl | hm | rfl | rfl
  · cases hc
  · exact hbody m hm c hc
  · cases hc
    exact .root
  · obtain ⟨label, hl, hm⟩ := List.mem_flatMap.1 hm
    unfold notePoints at hm
    split at hm
    · rename_i d hd
      refine Reached.of_mem_contentPoints (fun c' hc' => ?_) hm hc
      refine Reached.of_mem_noteOrder (fun l hl d' hd' c'' hc'' => ?_) hl hd hc'
      rcases mem_addLabels.1 hl with hl | hl
      · cases hl
      · exact Reached.of_numbered hbody hl hd' hc''
    · cases hm
  · cases hc
  · cases hc

/-- The nodes that are reached are nodes of the document. -/
theorem Reached.mem_preorder {root n : Node} (h : (Scope.ofDocument root).Reached root n) :
    n ∈ root.preorder := by
  induction h with
  | root => exact mem_preorder_self root
  | child _ _ hc ih =>
      exact preorder_subset ih (preorder_subset_of_mem_children hc (mem_preorder_self _))
  | title _ _ _ hc ih =>
      exact preorder_subset ih (preorder_subset_of_mem_passageIn rfl hc (mem_preorder_self _))
  | term _ _ hitem _ hc ih =>
      have hitem := preorder_subset ih (preorder_subset_of_mem_children hitem (mem_preorder_self _))
      exact preorder_subset hitem (preorder_subset_of_mem_passageIn rfl hc (mem_preorder_self _))
  | note _ _ _ _ hd hc _ =>
      have hdefinition := mem_preorder_of_lookup hd
      exact preorder_subset hdefinition
        (preorder_subset_of_mem_children hc (mem_preorder_self _))

end Scope

/-! ### Checking what is reached -/

theorem points_subset_listPoints {n : Node} {ns : List Node} (h : n ∈ ns) (inList : Bool) :
    n.points inList ⊆ listPoints inList ns :=
  fun _ hm => mem_listPoints.2 ⟨n, h, .inl hm⟩

theorem listPoints_subset_points {n : Node} (h : n.opens = true) (inList : Bool) :
    listPoints n.listsTerms n.children ⊆ n.points inList :=
  fun _ hm => Node.mem_points.2 (.inr (.inr (.inr (.inr ⟨h, .inl hm⟩))))

theorem passagePoints_subset_points {n : Node} {inList : Bool} {name : String}
    (h : n.passageRead? inList = some name) :
    listPoints false (passageIn name n.properties) ⊆ n.points inList := by
  intro m hm
  refine Node.mem_points.2 (.inr (.inr (.inr (.inl ⟨name, h, mem_passagePoints.2 ?_⟩))))
  unfold passageIn at hm
  split at hm
  · rename_i ns hns
    exact .inl ⟨ns, hns, .inl hm⟩
  · cases hm

theorem construct_mem_points (n : Node) (inList : Bool) : .construct n ∈ n.points inList :=
  Node.mem_points.2 (.inl rfl)

/-- All points of a node are among some points, and its blanks too. -/
def Passed (n : Node) (ms : List Point) : Prop :=
  (∃ inList, n.points inList ⊆ ms) ∧ .blanks n ∈ ms

theorem Passed.mono {n : Node} {ms ms' : List Point} (h : Passed n ms) (hsubset : ms ⊆ ms') :
    Passed n ms' := by
  obtain ⟨⟨inList, hpoints⟩, hblanks⟩ := h
  exact ⟨⟨inList, List.Subset.trans hpoints hsubset⟩, hsubset hblanks⟩

theorem passed_listPoints {n : Node} {inList : Bool} {ns : List Node}
    (h : ∀ c ∈ ns, .construct n ∈ c.points inList → n = c ∨ Passed n (c.points inList))
    (hn : .construct n ∈ listPoints inList ns) : Passed n (listPoints inList ns) := by
  obtain ⟨c, hc, hn | hn⟩ := mem_listPoints.1 hn
  · rcases h c hc hn with rfl | hpassed
    · exact ⟨⟨inList, points_subset_listPoints hc inList⟩, mem_listPoints.2 ⟨n, hc, .inr rfl⟩⟩
    · exact hpassed.mono (points_subset_listPoints hc inList)
  · cases hn

/-- Where a node below another one is checked, all of its points are passed. -/
theorem passed_points {n m : Node} {inList : Bool} (h : .construct n ∈ m.points inList) :
    n = m ∨ Passed n (m.points inList) := by
  induction m using Node.induction generalizing inList with
  | h m hcs hps =>
      rcases Node.mem_points.1 h with hn | ⟨hn, -⟩ | ⟨hn, -⟩ | ⟨name, hname, hn⟩ |
        ⟨hopens, hn | hn⟩
      · cases hn
        exact .inl rfl
      · cases hn
      · cases hn
      · rcases mem_passagePoints.1 hn with ⟨ns, hns, hn | hn⟩ | ⟨v, -, hn⟩
        · have hpassage : passageIn name m.properties = ns := by simp [passageIn, hns]
          have hpassed := passed_listPoints (fun c hc => hps name c (hpassage.symm ▸ hc)) hn
          exact .inr (hpassed.mono (hpassage ▸ passagePoints_subset_points hname))
        · cases hn
        · cases hn
      · have hpassed := passed_listPoints (fun c hc => hcs c hc) hn
        exact .inr (hpassed.mono (listPoints_subset_points hopens inList))
      · cases hn

theorem passed_contentPoints {n : Node} {ns : List Node} (h : .construct n ∈ contentPoints ns) :
    Passed n (contentPoints ns) := by
  rcases List.mem_append.1 h with h | h
  · exact (passed_listPoints (fun _ _ => passed_points) h).mono (List.subset_append_left _ _)
  · cases List.mem_singleton.1 h

namespace Scope

variable {s : Scope} {root : Node}

theorem passed_documentPoints {n : Node} (h : .construct n ∈ s.documentPoints root) :
    Passed n (s.documentPoints root) := by
  have hbody : root.points false ⊆ s.documentPoints root := by
    intro m hm
    simp [documentPoints, hm]
  have hcases := h
  simp only [documentPoints, Point.beginning, List.mem_cons, List.mem_append, List.not_mem_nil,
    or_false, reduceCtorEq, false_or] at hcases
  rcases hcases with hn | hn
  · rcases passed_points hn with rfl | hpassed
    · exact ⟨⟨false, hbody⟩, by simp [documentPoints]⟩
    · exact hpassed.mono hbody
  · obtain ⟨label, hl, hn⟩ := List.mem_flatMap.1 hn
    refine Passed.mono ?_ (s.notePoints_subset hl)
    unfold notePoints at hn ⊢
    split at hn
    · exact passed_contentPoints hn
    · cases hn

/-- The points of a node in a list below a node are among the points of that. -/
theorem construct_mem_of_mem_listPoints {c : Node} {ns : List Node} {inList : Bool}
    (h : listPoints inList ns ⊆ s.documentPoints root) (hc : c ∈ ns) :
    .construct c ∈ s.documentPoints root :=
  h (points_subset_listPoints hc inList (construct_mem_points c inList))

theorem construct_mem_of_reached {n : Node} (h : s.Reached root n) :
    .construct n ∈ s.documentPoints root := by
  induction h with
  | root => simp [documentPoints, construct_mem_points]
  | child _ hopens hc ih =>
      obtain ⟨⟨b, hpoints⟩, -⟩ := passed_documentPoints ih
      have hlist := List.Subset.trans (listPoints_subset_points hopens b) hpoints
      exact construct_mem_of_mem_listPoints hlist hc
  | title _ hkind hopens hc ih =>
      obtain ⟨⟨b, hpoints⟩, -⟩ := passed_documentPoints ih
      have htitle := passagePoints_subset_points (Node.passageRead?_title hkind hopens b)
      exact construct_mem_of_mem_listPoints (List.Subset.trans htitle hpoints) hc
  | @term n item c _ hlists hitem hkind hc ih =>
      -- The term is read from the list and not from the item, whose points need not hold it.
      obtain ⟨⟨b, hpoints⟩, -⟩ := passed_documentPoints ih
      have hlist := listPoints_subset_points (Node.opens_of_listsTerms hlists) b
      rw [hlists] at hlist
      have hpassage := passagePoints_subset_points (Node.passageRead?_tag hkind)
      have hpoints := List.Subset.trans hlist hpoints
      have hitem := List.Subset.trans (points_subset_listPoints hitem true) hpoints
      exact construct_mem_of_mem_listPoints (List.Subset.trans hpassage hitem) hc
  | @note n d c _ hkind hinline hshown hd hc ih =>
      -- A reference that is checked numbers its label, and all numbered labels are written.
      have hnotes : labelIn n.properties ∈ s.notes root := by
        rw [notes_eq, ← numberedIn_documentPoints]
        exact mem_addLabels.2 (.inr (List.mem_filterMap.2
          ⟨_, ih, Node.numbered?_of_defined hkind hinline hshown hd⟩))
      have hpoints : contentPoints d.children ⊆ s.documentPoints root := by
        have := s.notePoints_subset hnotes
        rwa [notePoints, hd] at this
      have hlist := List.Subset.trans (List.subset_append_left _ _) hpoints
      exact construct_mem_of_mem_listPoints hlist hc

/-- **The nodes that a pass reaches are those that it checks**, and those whose blanks it adds. -/
theorem reached_iff {n : Node} :
    (s.Reached root n ↔ .construct n ∈ s.documentPoints root) ∧
      (s.Reached root n ↔ .blanks n ∈ s.documentPoints root) := by
  refine ⟨⟨construct_mem_of_reached, fun h => .of_mem_documentPoints h rfl⟩,
    ⟨fun h => ?_, fun h => .of_mem_documentPoints h rfl⟩⟩
  exact (passed_documentPoints (construct_mem_of_reached h)).2

end Scope

end ForumMarkup
