import ForumMarkup.Proofs.Pass.Unseen
/-
**Spellings of passages.**

A passage can be given as nodes or as a plain value: a text stands for a single node with that text,
and a passage that is absent or null stands for no nodes at all.  A pass makes the same of all
spellings, wherever they stand: in headlines and items, in nodes whose passages nobody reads, and in
nodes that are part of passages themselves.

Main definitions:

* `ForumMarkup.Spelling` — the nodes that a passage stands for when it is given as a plain value;
* `ForumMarkup.Respelled` — a node one of whose passages is given as nodes instead.

Main results:

* `ForumMarkup.passage_of_spelling` — the two spellings of a passage run the same;
* `ForumMarkup.renderDocument_respelled` — **a pass makes the same of all spellings**.
-/

set_option autoImplicit false

namespace ForumMarkup

/-! ### Spellings -/

/-- A text as a node. -/
def wordNode (s : String) : Node :=
  .mk .plainText [("value", .value (.text s))] []

/-- The nodes that a passage stands for when it is given as a plain value, or not at all. -/
inductive Spelling : Option Property → List Node → Prop
  | text (s : String) : Spelling (some (.value (.text s))) [wordNode s]
  | null : Spelling (some (.value .null)) []
  | absent : Spelling none []

/-- A node one of whose passages is given as nodes instead. -/
inductive Respelled : Node → Node → Prop
  | entry {kind : Kind} {front back : List (String × Property)} {cs : List Node} {name : String}
      {p : Property} {ns : List Node} : isPassageName name = true → Spelling (some p) ns →
      Respelled (.mk kind (front ++ (name, p) :: back) cs)
        (.mk kind (front ++ (name, .nodes ns) :: back) cs)
  | absent {kind : Kind} {front back : List (String × Property)} {cs : List Node} {name : String} :
      isPassageName name = true → lookupEntry name (front ++ back) = none →
      Respelled (.mk kind (front ++ back) cs) (.mk kind (front ++ (name, .nodes []) :: back) cs)

namespace Respelled

variable {n n' : Node}

theorem kind_eq (h : Respelled n n') : n'.kind = n.kind := by
  cases h <;> rfl

theorem children_eq (h : Respelled n n') : n'.children = n.children := by
  cases h <;> rfl

/-- What stands under a name is the same, or a passage in its two spellings. -/
theorem lookup (h : Respelled n n') (sought : String) :
    lookupEntry sought n'.properties = lookupEntry sought n.properties ∨
      isPassageName sought = true ∧ ∃ ns, Spelling (lookupEntry sought n.properties) ns ∧
        lookupEntry sought n'.properties = some (.nodes ns) := by
  cases h with
  | @entry kind front back cs name p ns hname hspelling =>
      simp only [Node.properties]
      rcases lookupEntry_between sought name front back with ⟨rfl, hfound⟩ | hother
      · exact .inr ⟨hname, ns, by rwa [hfound], hfound _⟩
      · exact .inl (by rw [hother, hother])
  | @absent kind front back cs name hname hnone =>
      simp only [Node.properties]
      rcases lookupEntry_between sought name front back with ⟨rfl, hfound⟩ | hother
      · exact .inr ⟨hname, [], by rw [hnone]; exact .absent, hfound _⟩
      · exact .inl (hother _)

end Respelled

/-! ### What a pass makes of them -/

theorem listText_wordNode (env : Environment) (s : String) :
    listText env false [wordNode s] = pure s := by
  have hentry : entry env false (wordNode s) = pure (.text s) := by
    simp [wordNode, entry, visit, shownIn, Node.valueIn?, lookupEntry, Value.display,
      Value.isShowable, Value.shown]
  have hblanks : withBlanks (wordNode s) (.text s) = pure (.text s) := rfl
  have hnil : listText env false [] = pure "" := rfl
  rw [listText_cons, hentry, pure_bind, hblanks, pure_bind, hnil, pure_bind]
  simp [Fragment.text?]

/-- The two spellings of a passage run the same. -/
theorem passage_of_spelling (env : Environment) {name : String}
    {ps ps' : List (String × Property)} {ns : List Node}
    (h : Spelling (lookupEntry name ps) ns) (hns : lookupEntry name ps' = some (.nodes ns)) :
    passage env name ps' = passage env name ps := by
  rw [passage_eq, passage_eq, hns]
  generalize lookupEntry name ps = p? at h
  cases h with
  | text s => exact listText_wordNode env s
  | null => rfl
  | absent => rfl

/-- The nodes of a passage hold no landmarks, if it can be given as a plain value. -/
theorem landmarks_of_spelling {name : String} {ps ps' : List (String × Property)} {ns : List Node}
    (h : Spelling (lookupEntry name ps) ns) (hns : lookupEntry name ps' = some (.nodes ns)) :
    (passageIn name ps').flatMap (Node.ofKinds isLandmark) =
      (passageIn name ps).flatMap (Node.ofKinds isLandmark) := by
  rw [passageIn, passageIn, hns]
  generalize lookupEntry name ps = p? at h
  cases h <;> rfl

theorem Respelled.unseen {n n' : Node} (h : Respelled n n') : Unseen False n n' where
  kind := h.kind_eq
  value name hname := by
    have hlookup := (h.lookup name).resolve_right fun hspelt => by simp [hname] at hspelt
    rw [Node.valueIn?, Node.valueIn?, hlookup]
  passages env name _ := by
    refine .of_eq ?_
    rcases h.lookup name with hsame | ⟨-, ns, hspelling, hns⟩
    · rw [passage_eq, passage_eq, hsame]
    · exact passage_of_spelling env hspelling hns
  below env descriptive _ := by
    rw [h.children_eq]
    exact .refl _
  isEmpty _ := by rw [h.children_eq]

theorem respelled_unseenChange : UnseenChange False Respelled where
  unseen := Respelled.unseen
  landmarks {n n'} h := by
    have hpassage : ∀ name, (passageIn name n'.properties).flatMap (Node.ofKinds isLandmark) =
        (passageIn name n.properties).flatMap (Node.ofKinds isLandmark) := by
      intro name
      rcases h.lookup name with hsame | ⟨-, ns, hspelling, hns⟩
      · rw [passageIn, passageIn, hsame]
      · exact landmarks_of_spelling hspelling hns
    rw [Node.flatMap_held, Node.flatMap_held, hpassage, hpassage, h.children_eq]

/-! ### Documents -/

theorem wholePass_of_respelled (o : Options) {root root' : Node}
    (h : Somewhere Respelled root root') :
    wholePass (passEnvironment o root') root' = wholePass (passEnvironment o root) root :=
  (respelled_unseenChange.wholePass h o).eq

/-- **A pass makes the same of all spellings.**  Let any passages of a document, at any places and
depths, be given as nodes instead.  Then a pass ends in the same way, with the same text or for the
same reason, leaves the same record and gives the same numbers. -/
theorem renderDocument_respelled (o : Options) {root root' : Node}
    (h : Relation.ReflTransGen (Somewhere Respelled) root root') :
    renderDocument o root' = renderDocument o root ∧ numbersIn o root' = numbersIn o root := by
  have hpass : wholePass (passEnvironment o root') root' =
      wholePass (passEnvironment o root) root := by
    induction h with
    | refl => rfl
    | tail _ hlast ih => rw [wholePass_of_respelled o hlast, ih]
  rw [renderDocument_eq, renderDocument_eq, numbersIn, numbersIn, hpass]
  exact ⟨rfl, rfl⟩

/-- The title of a headline, the term of an item below it, and the title that a headline in a
footnote does not have. -/
theorem renderDocument_respelled_headline :
    let text (s : String) : Property := .value (.text s)
    let list (tag : Property) : Node :=
      .mk .plainList [("type", text "descriptive")] [.mk .item [("tag", tag)] [wordNode "x"]]
    let note (title : List (String × Property)) : Node :=
      .mk .footnoteDefinition [("label", text "n")] [.mk .headline title []]
    let root (title tag : Property) (noteTitle : List (String × Property)) : Node :=
      .mk .orgData [] [.mk .headline [("title", title)]
        [list tag, .mk .footnoteReference [("label", text "n")] []], note noteTitle]
    let before : Node := root (text "A") (text "t") []
    let after : Node := root (.nodes [wordNode "A"]) (.nodes [wordNode "t"]) [("title", .nodes [])]
    Relation.ReflTransGen (Somewhere Respelled) before after ∧
      (renderDocument {} before).1.toOption = some
        ("[b][u]# A[/u][/b]\n\n[list]\n[*][i]t[/i]: x\n[/list]^1 " ++
          "[b][u]Footnotes[/u][/b]\n\n^1: [b][u]# [/u][/b]") ∧
      renderDocument {} after = renderDocument {} before ∧
      numbersIn {} after = numbersIn {} before := by
  intro text list note root before after
  have htitle : Somewhere Respelled before (root (.nodes [wordNode "A"]) (text "t") []) :=
    @Somewhere.child _ _ _ [] _ _ _ (.here (@Respelled.entry _ [] [] _ _ _ _ rfl (.text "A")))
  have hlist : Somewhere Respelled (list (text "t")) (list (.nodes [wordNode "t"])) :=
    @Somewhere.child _ _ _ [] _ _ _ (.here (@Respelled.entry _ [] [] _ _ _ _ rfl (.text "t")))
  have htag : Somewhere Respelled (root (.nodes [wordNode "A"]) (text "t") [])
      (root (.nodes [wordNode "A"]) (.nodes [wordNode "t"]) []) :=
    @Somewhere.child _ _ _ [] _ _ _ (@Somewhere.child _ _ _ [] _ _ _ hlist)
  have hnote : Somewhere Respelled (note []) (note [("title", .nodes [])]) :=
    @Somewhere.child _ _ _ [] _ _ _ (.here (@Respelled.absent _ [] [] _ _ rfl rfl))
  have hlast : Somewhere Respelled
      (root (.nodes [wordNode "A"]) (.nodes [wordNode "t"]) []) after :=
    @Somewhere.child _ _ _ [_] _ _ _ hnote
  have hall : Relation.ReflTransGen (Somewhere Respelled) before after :=
    ((Relation.ReflTransGen.single htitle).tail htag).tail hlast
  exact ⟨hall, by decide +kernel, renderDocument_respelled {} hall⟩

end ForumMarkup
