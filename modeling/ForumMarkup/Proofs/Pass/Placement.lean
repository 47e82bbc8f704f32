import ForumMarkup.Proofs.Pass.Lookup
import ForumMarkup.Proofs.Pass.Recast
/-
**The places of definitions.**

A definition has no text where it stands; it is written in the list of footnotes, if something
refers to it.  So it does not matter where the definitions of a document stand, in which order, and
which others there are, as long as each label that a pass looks up has the same definition and the
least level stays the same.  Two things do depend on the place of a definition: blanks after it are
written where it stands, and below a reference it would be taken for the definition that the
reference carries itself.  A pass does not begin, though, if there is a definition whose label
cannot be shown.

Main definitions:

* `ForumMarkup.Node.isLooseNote`, `ForumMarkup.Node.withoutNotes` — definitions that no blanks
  follow, and a tree without them;
* `ForumMarkup.Node.definition?` — the definition of a label.

Main results:

* `ForumMarkup.document_withoutNotes` — with the same scope, a pass makes the same of a tree without
  such definitions;
* `ForumMarkup.renderDocument_placement` — **the places of definitions do not matter**.
-/

set_option autoImplicit false

namespace ForumMarkup

/-! ### Trees without definitions -/

/-- Whether a node is a definition that no blanks follow. -/
def Node.isLooseNote (n : Node) : Bool :=
  n.kind = .footnoteDefinition &&
    match n.postBlank with
    | .ok count => count = 0
    | .error _ => false

/-- A tree without the definitions among its children, at any depth.  Those stay that blanks follow,
and those below a reference, because a reference with children carries its definition itself. -/
def Node.withoutNotes : Node → Node :=
  Node.edit { keeps := fun kind n => kind = .footnoteReference || !n.isLooseNote }

/-- A definition that no blanks follow has no text where it stands. -/
theorem listText_cons_of_isLooseNote {n : Node} (h : n.isLooseNote = true) (env : Environment)
    (descriptive : Bool) (ns : List Node) :
    listText env descriptive (n :: ns) = listText env descriptive ns := by
  obtain ⟨kind, ps, cs⟩ := n
  obtain ⟨hkind, hblanks⟩ := Bool.and_eq_true_iff.1 h
  obtain rfl : kind = .footnoteDefinition := of_decide_eq_true hkind
  have hcount : (Node.mk .footnoteDefinition ps cs).postBlank = .ok 0 := by
    cases hcount : (Node.mk .footnoteDefinition ps cs).postBlank with
    | error m => simp [hcount] at hblanks
    | ok count =>
        rw [hcount] at hblanks
        rw [of_decide_eq_true hblanks]
  have hentry : entry env descriptive (.mk .footnoteDefinition ps cs) = pure (.text "") := by
    simp [entry, visit]
  have hplain : withBlanks (.mk .footnoteDefinition ps cs) (.text "") = pure (.text "") := by
    simp [withBlanks, hcount]
  rw [listText_cons, hentry, pure_bind, hplain, pure_bind]
  simp [Fragment.text?]

/-- **With the same scope, a pass makes the same of a tree without such definitions.** -/
theorem document_withoutNotes (env : Environment) (root : Node) :
    document env root.withoutNotes = document env root := by
  refine (recast_edit (.refl env) (fun _ _ _ _ => rfl) (fun n _ _ => ?_) (fun kind c hc => ?_)
    (mem_preorder_self root)).document_eq (.refl env) rfl
  · rw [headlineLevel, headlineLevel, properties_edit, valueIn?_edit_of_eq fun _ => rfl]
  · obtain ⟨hkind, hloose⟩ := Bool.or_eq_false_iff.1 hc
    exact ⟨of_decide_eq_false hkind,
      listText_cons_of_isLooseNote (by simpa using hloose) env⟩

/-! ### Whole documents -/

/-- The definition of a label in a document: the first one in document order. -/
def Node.definition? (root : Node) (label : String) : Option Node :=
  root.preorder.find? fun n => FootnoteTable.definedLabel? n = some label

/-- **The places of definitions do not matter.**  Let two documents be the same without their
definitions, with the same definition of each label that a pass over one of them looks up and the
same least level, and let the labels of all definitions be such that they can be shown in both or
in neither.  Then a pass ends in the same way for both, with the same text or for the same reason,
and gives the same numbers. -/
theorem renderDocument_placement (o : Options) {root root' : Node}
    (htree : root'.withoutNotes = root.withoutNotes)
    (hdefinition : ∀ label ∈ lookedUp o root, root'.definition? label = root.definition? label)
    (hlabels : FootnoteTable.canCollect root'.preorder = FootnoteTable.canCollect root.preorder)
    (hlevel : (Scope.ofDocument root').topLevel.integer? =
      (Scope.ofDocument root).topLevel.integer?) :
    renderDocument o root' = renderDocument o root ∧ numbersIn o root' = numbersIn o root := by
  have hagrees : (Scope.ofDocument root).Agrees (Scope.ofDocument root') (lookedUp o root) := by
    refine ⟨hlevel, fun label hl => ?_⟩
    change lookupEntry label (FootnoteTable.collect root'.preorder) =
      lookupEntry label (FootnoteTable.collect root.preorder)
    rw [lookupEntry_collect, lookupEntry_collect]
    exact hdefinition label hl
  have htext : document (passEnvironment o root') root' = document (passEnvironment o root') root :=
    calc document (passEnvironment o root') root'
      _ = document (passEnvironment o root') root'.withoutNotes := (document_withoutNotes ..).symm
      _ = document (passEnvironment o root') root := by rw [htree, document_withoutNotes]
  have hrun : (wholePass (passEnvironment o root') root').runFrom {} =
      (wholePass (passEnvironment o root) root).runFrom {} := by
    rw [wholePass_congr hlabels htext]
    exact hagrees.document_run_eq o
  exact ⟨by rw [renderDocument_eq, renderDocument_eq, hrun], by rw [numbersIn, numbersIn, hrun]⟩

/-- A definition that is moved out of a headline into a paragraph, one that is moved to the front,
and one that nothing refers to. -/
theorem renderDocument_placement_moved :
    let note (label : String) : Node :=
      .mk .footnoteDefinition [("label", .value (.text label))]
        [.mk .plainText [("value", .value (.text label))] []]
    let reference (label : String) : Node :=
      .mk .footnoteReference [("label", .value (.text label))] []
    let hidden (below : List Node) : Node :=
      .mk .headline [("footnote_section_p", .value (.bool true))] below
    let root : Node := .mk .orgData []
      [hidden [note "a"], .mk .paragraph [] [reference "b", reference "a"], note "b"]
    let root' : Node := .mk .orgData []
      [note "b", hidden [note "c"], .mk .paragraph [] [reference "b", note "a", reference "a"]]
    root'.withoutNotes = root.withoutNotes ∧ lookedUp {} root = ["b", "a"] ∧
      (renderDocument {} root).1.toOption =
        some "^1 ^2 [b][u]Footnotes[/u][/b]\n\n^1: b\n^2: a" ∧
      renderDocument {} root' = renderDocument {} root ∧
      numbersIn {} root' = numbersIn {} root := by
  intro note reference hidden root root'
  have htree : root'.withoutNotes = root.withoutNotes := rfl
  have hlooked : lookedUp {} root = ["b", "a"] := by decide +kernel
  refine ⟨htree, hlooked, by decide +kernel,
    renderDocument_placement {} htree (fun label hl => ?_) rfl rfl⟩
  rw [hlooked] at hl
  rcases List.mem_cons.1 hl with rfl | hl
  · rfl
  · rw [List.mem_singleton.1 hl]
    rfl

/-- A definition that nothing refers to, but whose label has too many digits to be shown. -/
theorem renderDocument_placement_longLabel :
    let note : Node := .mk .footnoteDefinition [("label", .value (.int (Int.pow 10 4300)))] []
    let root : Node := .mk .orgData [] []
    let root' : Node := .mk .orgData [] [note]
    root'.withoutNotes = root.withoutNotes ∧ lookedUp {} root = [] ∧
      (Scope.ofDocument root').topLevel.integer? = (Scope.ofDocument root).topLevel.integer? ∧
      (renderDocument {} root).1.toOption = some "" ∧
      (renderDocument {} root').1 = .error (.misfit .longInteger) :=
  ⟨rfl, by decide +kernel, rfl, by decide +kernel, failsLong_iff.1 (by decide +kernel)⟩

end ForumMarkup
