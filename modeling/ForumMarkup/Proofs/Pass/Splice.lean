import ForumMarkup.Proofs.Pass.Unseen
/-
**Containers leave nothing behind.**

A document, a section or a paragraph in a list of nodes has no markup of its own: its text is the
text of its children.  So its children can take its place, in a passage or among children, unless
something is asked of the place: a list asks which of its children are items, and a reference
whether it has children.  The only thing in which a pass can differ then is what it refuses first.
An entity whose value is no text is refused when it is joined with the nodes beside it, and without
its container there are more of these, each of which may be refused before.

Main definitions:

* `ForumMarkup.Node.IsTransparent` — a container without markup of its own;
* `ForumMarkup.Spliced` — a node in which the children of a container have taken its place.

Main results:

* `ForumMarkup.listText_append` — the text of two lists one after the other;
* `ForumMarkup.listText_spliced` — a list in which children have taken the place of their container;
* `ForumMarkup.renderDocument_spliced` — **children may take the place of their container**;
* `ForumMarkup.renderDocument_spliced_stray` — a pass may fail in another way then.
-/

set_option autoImplicit false

namespace ForumMarkup

/-! ### Containers -/

/-- A container without markup of its own: no blanks follow it, and it has no passages. -/
structure Node.IsTransparent (c : Node) : Prop where
  kind : c.kind = .orgData ∨ c.kind = .section ∨ c.kind = .paragraph
  blanks : c.postBlank = .ok 0
  title : passageIn "title" c.properties = []
  tag : passageIn "tag" c.properties = []

/-- A node in which the children of a container have taken its place, in a passage or among the
children. -/
inductive Spliced (c : Node) : Node → Node → Prop
  | child {kind : Kind} {ps : List (String × Property)} {before after : List Node} :
      kind ≠ .plainList → kind ≠ .footnoteReference →
      Spliced c (.mk kind ps (before ++ c :: after)) (.mk kind ps (before ++ (c.children ++ after)))
  | passage {kind : Kind} {front back : List (String × Property)} {name : String}
      {before after cs : List Node} :
      Spliced c (.mk kind (front ++ (name, .nodes (before ++ c :: after)) :: back) cs)
        (.mk kind (front ++ (name, .nodes (before ++ (c.children ++ after))) :: back) cs)

/-- Some child of a node is an entity whose value is no text. -/
def Node.HoldsStray (c : Node) : Prop :=
  ∃ d ∈ c.children, d.stray?.isSome = true

/-! ### Fragments that are texts -/

/-- A fragment that is a text. -/
def Fragment.IsText (f : Fragment) : Prop :=
  ∃ t, f = .text t

variable {env : Environment} {descriptive : Bool} {n : Node}

theorem visit_yields (h : n.stray? = none) : (visit env n).Yields Fragment.IsText := by
  have htext : ∀ t, PassM.Yields Fragment.IsText (pure (.text t)) := fun t => .pure ⟨t, rfl⟩
  obtain ⟨kind, ps, cs⟩ := n
  cases hrole : kind.role with
  | container =>
      rw [visit_container env ps cs hrole]
      exact .after fun s => htext _
  | leaf =>
      rw [visit_leaf env ps cs hrole, ← written_leafPieces [] env.options kind ps cs hrole,
        Node.fragment_of_none [] h]
      exact .settle _ ⟨_, rfl⟩
  | codeBlock =>
      rw [visit_codeBlock env ps cs hrole]
      exact .after fun code => .settle _ ⟨_, rfl⟩
  | headline =>
      rw [Kind.eq_headline hrole, visit_headline]
      split
      · exact htext _
      · exact .after fun level => .after fun title => .after fun line => .after fun s => htext _
  | list =>
      rw [Kind.eq_plainList hrole, visit_plainList]
      exact .after fun type => .after fun s => htext _
  | link =>
      rw [Kind.eq_link hrole, visit_link]
      exact .after fun parts => .after fun s => .after fun t => htext _
  | reference =>
      rw [Kind.eq_footnoteReference hrole, visit_footnoteReference]
      exact .after fun t => htext _
  | refused =>
      rw [visit_refused env ps cs hrole]
      exact nofun

/-- Only a stray entity becomes something else than a text. -/
theorem entry_yields (h : n.stray? = none) :
    (entry env descriptive n).Yields Fragment.IsText := by
  have hvisit : (visit env n).Yields Fragment.IsText := visit_yields h
  obtain ⟨kind, ps, cs⟩ := n
  rw [entry]
  split
  · exact .after fun tag => .after fun s => .pure ⟨_, rfl⟩
  · exact hvisit

theorem withBlanks_yields {f : Fragment} (h : f.IsText) :
    (withBlanks n f).Yields Fragment.IsText := by
  rw [withBlanks]
  refine .after fun count => ?_
  split
  · exact .pure h
  · exact .after fun space => .after fun s => .pure ⟨_, rfl⟩

/-! ### Lists one after the other -/

/-- A fragment may be joined before or after something else, if it is a text.  If it is not, the
pass fails in either order, although not always in the same way. -/
theorem sameRun_text? {lenient : Prop} {f : Fragment} (h : f.IsText ∨ lenient)
    (m m' : PassM String) :
    SameRun lenient
      (m >>= fun r => PassM.ofMisfit f.text? >>= fun t => m' >>= fun rest =>
        (pure (t ++ r ++ rest) : PassM String))
      (m >>= fun r => m' >>= fun rest => PassM.ofMisfit f.text? >>= fun t =>
        (pure (t ++ (r ++ rest)) : PassM String)) := by
  refine .bind_left m fun r => ?_
  cases f with
  | text t => exact .of_eq (by simp [Fragment.text?, String.append_assoc])
  | stray v =>
      rcases h with ⟨t, ht⟩ | hlenient
      · cases ht
      · exact .of_throw hlenient m' _

/-- The text of two lists one after the other.  A stray entity in the first one is refused when all
of both is joined, and not before what is in the second one. -/
theorem listText_append {lenient : Prop} {ns : List Node}
    (h : ∀ n ∈ ns, n.stray?.isSome = true → lenient) (after : List Node) :
    SameRun lenient
      (listText env descriptive ns >>= fun s => listText env descriptive after >>= fun rest =>
        (pure (s ++ rest) : PassM String))
      (listText env descriptive (ns ++ after)) := by
  induction ns with
  | nil =>
      have hnil : listText env descriptive [] = pure "" := rfl
      exact .of_eq (by simp only [hnil, pure_bind, String.empty_append, bind_pure, List.nil_append])
  | cons n ns ih =>
      have hns := ih fun m hm => h m (List.mem_cons_of_mem _ hm)
      have hafter : ∀ f : Fragment, f.IsText ∨ lenient → SameRun lenient
          (listText env descriptive ns >>= fun r => PassM.ofMisfit f.text? >>= fun t =>
            listText env descriptive after >>= fun rest => (pure (t ++ r ++ rest) : PassM String))
          (listText env descriptive (ns ++ after) >>= fun rest =>
            PassM.ofMisfit f.text? >>= fun t => (pure (t ++ rest) : PassM String)) := by
        intro f hf
        have hjoined := hns.bind_right fun rest =>
          PassM.ofMisfit f.text? >>= fun t => (pure (t ++ rest) : PassM String)
        simp only [bind_assoc, pure_bind] at hjoined
        exact (sameRun_text? hf _ _).trans hjoined
      rw [List.cons_append, listText_cons, listText_cons]
      simp only [bind_assoc, pure_bind]
      cases hstray : n.stray? with
      | some v =>
          have hlenient : lenient := h n List.mem_cons_self (by rw [hstray]; rfl)
          exact .bind_left _ fun f => .bind_left _ fun f' => hafter f' (.inr hlenient)
      | none =>
          exact .bind_of_yields (.refl _) (entry_yields hstray) fun f hf =>
            .bind_of_yields (.refl _) (withBlanks_yields hf) fun f' hf' => hafter f' (.inl hf')

/-- The text of a list that begins with a container. -/
theorem listText_cons_of_isTransparent {c : Node} (hc : c.IsTransparent) (after : List Node) :
    listText env false (c :: after) = listText env false c.children >>= fun s =>
      listText env false after >>= fun rest => (pure (s ++ rest) : PassM String) := by
  have hentry : entry env false c =
      listText env false c.children >>= fun s => pure (.text s) := by
    have hkind := hc.kind
    obtain ⟨kind, ps, cs⟩ := c
    rw [entry_false, ← fragments_bind_joined]
    rcases hkind with rfl | rfl | rfl <;> rfl
  have hblanks : ∀ f, withBlanks c f = pure f := by
    intro f
    simp [withBlanks, hc.blanks]
  rw [listText_cons, hentry]
  simp [hblanks, Fragment.text?]

/-- A list in which the children of a container have taken its place. -/
theorem listText_spliced {c : Node} (hc : c.IsTransparent) (before after : List Node) :
    SameRun c.HoldsStray (listText env false (before ++ c :: after))
      (listText env false (before ++ (c.children ++ after))) := by
  induction before with
  | nil =>
      rw [List.nil_append, List.nil_append, listText_cons_of_isTransparent hc]
      exact listText_append (fun d hd hstray => ⟨d, hd, hstray⟩) after
  | cons n before ih => exact sameRun_cons (.refl _) rfl ih

/-! ### Documents -/

section

variable {c n n' : Node}

theorem Spliced.unseen (hc : c.IsTransparent) (h : Spliced c n n') :
    Unseen c.HoldsStray n n' := by
  cases h with
  | @child kind ps before after hlist hreference =>
      exact
        { kind := rfl
          value := fun _ _ => rfl
          passages := fun _ _ _ => .refl _
          below := fun env descriptive hdescriptive => by
            cases descriptive with
            | false => exact listText_spliced hc before after
            | true => exact absurd (hdescriptive rfl) hlist
          isEmpty := fun hkind => absurd hkind hreference }
  | passage => exact .passage_between fun env => listText_spliced hc _ _

/-- A container holds the landmarks of its children. -/
theorem landmarks_of_isTransparent (hc : c.IsTransparent) :
    c.ofKinds isLandmark = c.children.flatMap (Node.ofKinds isLandmark) := by
  have hkind : isLandmark c.kind = false := by
    rcases hc.kind with hkind | hkind | hkind <;> rw [hkind] <;> rfl
  rw [Node.ofKinds_eq, Node.flatMap_held, hc.title, hc.tag, hkind]
  rfl

theorem spliced_unseenChange (hc : c.IsTransparent) :
    UnseenChange c.HoldsStray (Spliced c) where
  unseen := Spliced.unseen hc
  landmarks {n n'} h := by
    have hlist : ∀ before after : List Node,
        (before ++ (c.children ++ after)).flatMap (Node.ofKinds isLandmark) =
          (before ++ c :: after).flatMap (Node.ofKinds isLandmark) := by
      intro before after
      simp only [List.flatMap_append, List.flatMap_cons, landmarks_of_isTransparent hc]
    rw [Node.flatMap_held, Node.flatMap_held]
    cases h with
    | @child kind ps before after _ _ =>
        rw [Node.children, Node.children, hlist]
        rfl
    | @passage kind front back name before after cs =>
        have hpassage : ∀ sought,
            (passageIn sought (front ++ (name, .nodes (before ++ (c.children ++ after))) ::
              back)).flatMap (Node.ofKinds isLandmark) =
            (passageIn sought (front ++ (name, .nodes (before ++ c :: after)) :: back)).flatMap
              (Node.ofKinds isLandmark) := by
          intro sought
          rcases passageIn_between sought name front back with hread | hother
          · rw [hread, hread, hlist]
          · rw [hother, hother]
        rw [Node.properties, Node.properties, hpassage, hpassage]
        rfl

end

/-- **Children may take the place of their container.**  A pass over the document after that ends
in the same way, with the same text or for the same reason.  Only if a child is an entity whose
value is no text, and the pass before failed for such a value, it may fail for another reason. -/
theorem renderDocument_spliced (o : Options) {c root root' : Node} (hc : c.IsTransparent)
    (h : Somewhere (Spliced c) root root') :
    (renderDocument o root').1 = (renderDocument o root).1 ∨
      (∃ d ∈ c.children, d.stray?.isSome = true) ∧
        (renderDocument o root).1 = .error (.misfit .notText) ∧
        ∃ e, (renderDocument o root').1 = .error e :=
  (spliced_unseenChange hc).renderDocument h o

/-- A section in the title of a headline, with a reference in it. -/
theorem renderDocument_spliced_section :
    let word (s : String) : Node := .mk .plainText [("value", .value (.text s))] []
    let label : String × Property := ("label", .value (.text "n"))
    let below : List Node := [.mk .bold [] [word "b"], .mk .footnoteReference [label] []]
    let c : Node := .mk .section [("post_blank", .value (.int 0))] below
    let root (title : List Node) : Node := .mk .orgData []
      [.mk .headline [("title", .nodes title)] [], .mk .footnoteDefinition [label] [word "x"]]
    let before : Node := root [word "a", c]
    let after : Node := root (word "a" :: below)
    c.IsTransparent ∧ Somewhere (Spliced c) before after ∧
      (renderDocument {} before).1.toOption = some
        "[b][u]# a[b]b[/b]^1 [/u][/b]\n\n[b][u]Footnotes[/u][/b]\n\n^1: x" ∧
      ((renderDocument {} after).1 = (renderDocument {} before).1 ∨
        (∃ d ∈ c.children, d.stray?.isSome = true) ∧
          (renderDocument {} before).1 = .error (.misfit .notText) ∧
          ∃ e, (renderDocument {} after).1 = .error e) := by
  intro word label below c root before after
  have hc : c.IsTransparent := ⟨.inr (.inl rfl), rfl, rfl, rfl⟩
  have hspliced : Somewhere (Spliced c) before after :=
    @Somewhere.child _ _ _ [] _ _ _ (.here (@Spliced.passage _ _ [] [] _ [word "a"] [] _))
  exact ⟨hc, hspliced, by decide +kernel, renderDocument_spliced {} hc hspliced⟩

/-- **A pass may fail in another way then.**  A number in a paragraph is refused when the paragraph
is over; without the paragraph the node after it is refused first. -/
theorem renderDocument_spliced_stray :
    let stray : Node := .mk .entity [("utf8", .value (.int 5))] []
    let c : Node := .mk .paragraph [] [stray]
    let root : Node := .mk .orgData [] [c, .mk .clock [] []]
    let root' : Node := .mk .orgData [] [stray, .mk .clock [] []]
    c.IsTransparent ∧ Somewhere (Spliced c) root root' ∧
      (renderDocument {} root).1 = .error (.misfit .notText) ∧
      (renderDocument {} root').1 = .error (.unsupported (.node .clock)) ∧
      (renderDocument {} root').1 ≠ (renderDocument {} root).1 := by
  intro stray c root root'
  have hc : c.IsTransparent := ⟨.inr (.inr rfl), rfl, rfl, rfl⟩
  have hspliced : Somewhere (Spliced c) root root' :=
    .here (@Spliced.child _ _ _ [] [.mk .clock [] []] (by decide) (by decide))
  have hroot : (renderDocument {} root).1 = .error (.misfit .notText) := rfl
  have hroot' : (renderDocument {} root').1 = .error (.unsupported (.node .clock)) := rfl
  refine ⟨hc, hspliced, hroot, hroot', ?_⟩
  rw [hroot, hroot']
  exact nofun

end ForumMarkup
