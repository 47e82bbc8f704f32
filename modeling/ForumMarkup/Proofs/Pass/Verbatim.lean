import ForumMarkup.Proofs.Pass.Numbering
import ForumMarkup.Proofs.Pass.Reach
/-
**Verbatim contents.**

Code is shown as it was written, indentation and empty lines included.  The markup around it is
trimmed time and again, in lists, items, quotes and footnotes, but a verbatim text stands between
tags and is never at the edge of what is trimmed.  So all of them are found in the text of a
document, one after the other in the order of the visits.

Main definitions:

* `ForumMarkup.OccurInOrder` — texts that occur in a text one after the other;
* `ForumMarkup.Kind.isVerbatim`, `ForumMarkup.verbatimsBy` — the kinds that show a text as it is,
  and the nodes of these kinds that a pass visits, in order;
* `ForumMarkup.Node.verbatimText` — what such a node is to leave in the text;
* `ForumMarkup.VerbatimsKept` — what is said of verbatim contents in the text of a document.

Main results:

* `ForumMarkup.occurInOrder_written` — the verbatim texts among pieces occur in their text;
* `ForumMarkup.verbatims_atoms` — the verbatim text of a node is the one that the node writes;
* `ForumMarkup.renderDocument_verbatims` — **verbatim contents are kept** in the text of a document.
-/

set_option autoImplicit false

namespace ForumMarkup

/-! ### Texts one after the other -/

/-- Texts that occur in a text one after the other, without overlapping. -/
inductive OccurInOrder : List String → String → Prop
  | nil (s : String) : OccurInOrder [] s
  | cons (before t : String) {ts : List String} {after : String} :
      OccurInOrder ts after → OccurInOrder (t :: ts) (before ++ t ++ after)

theorem OccurInOrder.prepend {ts : List String} {s : String} (h : OccurInOrder ts s)
    (front : String) : OccurInOrder ts (front ++ s) := by
  cases h with
  | nil => exact .nil _
  | @cons before t ts after h =>
      have hassoc : front ++ (before ++ t ++ after) = (front ++ before) ++ t ++ after := by
        simp only [String.append_assoc]
      rw [hassoc]
      exact .cons _ t h

/-- The text of a verbatim piece. -/
def Piece.verbatims : Piece → List String
  | .verbatim tag rest inner =>
    ["[" ++ tag.name ++ rest ++ "]" ++ inner ++ "[/" ++ tag.name ++ "]"]
  | _ => []

/-- The verbatim texts among pieces occur in their text. -/
theorem occurInOrder_written (numbers : List String) (ps : List Piece) :
    OccurInOrder (ps.flatMap Piece.verbatims) (written numbers ps) := by
  induction ps with
  | nil => exact .nil _
  | cons p ps ih =>
      have happend : written numbers (p :: ps) = written numbers [p] ++ written numbers ps :=
        written_append numbers [p] ps
      rw [happend]
      cases p with
      | verbatim tag rest inner =>
          have hpiece : written numbers [.verbatim tag rest inner] =
              "" ++ ("[" ++ tag.name ++ rest ++ "]" ++ inner ++ "[/" ++ tag.name ++ "]") := by
            simp [written_eq_iff, Piece.chars]
          rw [hpiece]
          exact .cons "" _ ih
      | _ => exact ih.prepend _

/-! ### Verbatim nodes -/

/-- Whether nodes of a kind show a text as it is. -/
def Kind.isVerbatim : Kind → Bool
  | .code | .verbatim | .exampleBlock | .fixedWidth | .srcBlock => true
  | _ => false

/-- The language that a block of code shows. -/
def shownLanguage? (o : Options) (ps : List (String × Property)) : Option String :=
  if o.codeLanguage then (givenIn "language" ps).map Value.shown else none

/-- The language as an attribute. -/
def languageText : Option String → String
  | some language => " lang=\"" ++ language ++ "\""
  | none => ""

/-- Lines of code between their tags. -/
def fenced (language? : Option String) (content : String) : String :=
  "[code" ++ languageText language? ++ "]\n" ++ closedLines content ++ "[/code]"

/-- What a verbatim node is to leave in the text. -/
def Node.verbatimText (o : Options) (n : Node) : String :=
  let content := textIn "value" "" n.properties
  match n.kind with
  | .code | .verbatim => "[font=monospace]" ++ content ++ "[/font]"
  | .exampleBlock => fenced none content
  | .fixedWidth => fenced none (Text.dedent content)
  | .srcBlock => fenced (shownLanguage? o n.properties) content
  | _ => ""

/-- The verbatim node that is checked at a point. -/
def Point.verbatim? : Point → Option Node
  | .construct n => if n.kind.isVerbatim then some n else none
  | _ => none

/-- The verbatim nodes that are checked at points, in order. -/
def verbatimsIn (ms : List Point) : List Node :=
  ms.filterMap Point.verbatim?

/-! ### The text of a verbatim node -/

theorem attributeText_codeAttributes (o : Options) (ps : List (String × Property)) :
    attributeText (codeAttributes o .srcBlock ps) = languageText (shownLanguage? o ps) := by
  unfold codeAttributes shownLanguage?
  cases givenIn "language" ps <;> cases o.codeLanguage <;> simp [attributeText, languageText]

theorem verbatims_codePieces (o : Options) {kind : Kind} {ps : List (String × Property)}
    (cs : List Node) (hkind : kind.role = .codeBlock) {code : String}
    (h : codeOf kind ps = .ok code) :
    (codePieces o kind ps).flatMap Piece.verbatims = [Node.verbatimText o (.mk kind ps cs)] := by
  have hpieces : (codePieces o kind ps).flatMap Piece.verbatims =
      ["[code" ++ attributeText (codeAttributes o kind ps) ++ "]\n" ++ code ++ "[/code]"] := by
    have hclose : "[/" ++ Tag.code.name ++ "]" = "[/code]" := rfl
    have hline : "]" ++ "\n" = "]\n" := rfl
    rw [codePieces, h, ← hclose, ← hline]
    simp only [asBlockPieces, List.flatMap_cons, List.flatMap_append, List.flatMap_nil,
      Piece.verbatims, List.nil_append, List.append_nil, String.append_assoc]
    rfl
  have hplain : attributeText [] = languageText none := rfl
  obtain ⟨s, hs, rfl⟩ := codeOf_eq_ok.1 h
  rw [hpieces]
  cases kind <;> try cases hkind
  case exampleBlock =>
      have hnone : codeAttributes o .exampleBlock ps = [] := rfl
      rw [hnone, hplain, ← hs.shown]
      rfl
  case fixedWidth =>
      have hnone : codeAttributes o .fixedWidth ps = [] := rfl
      rw [hnone, hplain, ← hs.shown]
      rfl
  case srcBlock =>
      rw [attributeText_codeAttributes, ← hs.shown]
      rfl

theorem verbatims_leafPieces (o : Options) {kind : Kind} (ps : List (String × Property))
    (cs : List Node) (hkind : kind.role = .leaf) :
    (leafPieces o kind ps).flatMap Piece.verbatims =
      (Point.construct (.mk kind ps cs)).verbatim?.toList.map (Node.verbatimText o) := by
  have hletters : ∀ s, (letters s).flatMap Piece.verbatims = [] := fun s => by
    simp [letters, List.flatMap_map, Piece.verbatims]
  have hcode : ∀ s, (Piece.verbatim .font "=monospace" s).verbatims =
      ["[font=monospace]" ++ s ++ "[/font]"] := fun s => by
    have hclose : "[/" ++ Tag.font.name ++ "]" = "[/font]" := rfl
    rw [← hclose]
    simp only [Piece.verbatims, String.append_assoc]
    rfl
  cases kind <;> try cases hkind
  case code =>
      rw [leafPieces, List.flatMap_singleton, hcode]
      rfl
  case verbatim =>
      rw [leafPieces, List.flatMap_singleton, hcode]
      rfl
  case entity => exact hletters _
  case plainText => exact hletters _
  case lineBreak =>
      simp [leafPieces, wrapped, Piece.verbatims, hletters, Point.verbatim?, Node.kind,
        Kind.isVerbatim]
  case horizontalRule => rfl
  case footnoteDefinition => rfl

theorem flatMap_verbatims_atoms (ps : List Piece) :
    (atoms ps).flatMap Piece.verbatims = ps.flatMap Piece.verbatims := by
  refine flatMap_atoms (fun p hp => ?_) ps
  cases p
  case verbatim => cases hp
  all_goals rfl

/-- Where a pass goes on after a block of code, the code can be written. -/
theorem codeOf_of_abort? {premises : Premises} {kind : Kind} {ps : List (String × Property)}
    {cs : List Node} (hrole : kind.role = .codeBlock)
    (h : (Point.construct (.mk kind ps cs)).abort? premises = none) :
    ∃ code, codeOf kind ps = .ok code := by
  change constructAbort? premises (.mk kind ps cs) = none at h
  rw [constructAbort?.eq_def] at h
  simp only [hrole] at h
  cases hcode : codeOf kind ps with
  | error m => simp [hcode, misfitOf] at h
  | ok code => exact ⟨code, rfl⟩

/-- The verbatim text of a node is the one that the node writes, where the pass goes on. -/
theorem verbatims_atoms (o : Options) {premises : Premises} {m : Point}
    (h : m.abort? premises = none) :
    (m.atoms o).flatMap Piece.verbatims = m.verbatim?.toList.map (Node.verbatimText o) := by
  cases m
  case construct n =>
      obtain ⟨kind, ps, cs⟩ := n
      have hatoms := atoms_construct o kind ps cs
      rw [Node.ownPieces] at hatoms
      rw [hatoms, flatMap_verbatims_atoms]
      cases hrole : kind.role with
      | leaf => exact verbatims_leafPieces o ps cs hrole
      | codeBlock =>
          have hverbatim : kind.isVerbatim = true := by
            cases kind <;> first | rfl | cases hrole
          obtain ⟨code, hcode⟩ := codeOf_of_abort? hrole h
          simpa [Point.verbatim?, Node.kind, hverbatim] using
            verbatims_codePieces o cs hrole hcode
      | _ =>
          have hverbatim : kind.isVerbatim = false := by
            cases kind <;> first | rfl | cases hrole
          simp [Point.verbatim?, Node.kind, hverbatim, Piece.verbatims]
  all_goals rfl

/-! ### Whole documents -/

/-- The verbatim nodes that a pass over a document visits, in order. -/
def verbatimsBy (root : Node) : List Node :=
  verbatimsIn ((Scope.ofDocument root).documentPoints root)

theorem mem_verbatimsIn {n : Node} {ms : List Point} :
    n ∈ verbatimsIn ms ↔ .construct n ∈ ms ∧ n.kind.isVerbatim = true := by
  have hpoint : ∀ m : Point,
      m.verbatim? = some n ↔ m = .construct n ∧ n.kind.isVerbatim = true := by
    intro m
    cases m
    case construct n' =>
        simp only [Point.verbatim?, Option.ite_none_right_eq_some, Option.some.injEq,
          Point.construct.injEq]
        constructor
        · rintro ⟨h, rfl⟩
          exact ⟨rfl, h⟩
        · rintro ⟨rfl, h⟩
          exact ⟨h, rfl⟩
    all_goals simp [Point.verbatim?]
  simp [verbatimsIn, hpoint]

/-- The verbatim nodes of the body come first, and then those of the definitions that are
written. -/
theorem verbatimsBy_eq (root : Node) :
    verbatimsBy root = verbatimsIn (root.points false) ++
      ((Scope.ofDocument root).notes root).flatMap fun label =>
        verbatimsIn ((Scope.ofDocument root).notePoints label) := by
  have hend : [Point.listed, .joined [root]].filterMap Point.verbatim? = [] := rfl
  have hnotes : ∀ labels : List String,
      (labels.flatMap (Scope.ofDocument root).notePoints).filterMap Point.verbatim? =
        labels.flatMap fun label => verbatimsIn ((Scope.ofDocument root).notePoints label) := by
    intro labels
    rw [List.filterMap_flatMap]
    rfl
  rw [verbatimsBy, Scope.documentPoints, verbatimsIn, List.filterMap_cons_none rfl,
    List.filterMap_append, List.filterMap_cons_none rfl, List.filterMap_append, hnotes, hend,
    List.append_nil, verbatimsIn]

/-- The verbatim texts in the markup of a document are those of the verbatim nodes that a pass
visits, if the pass succeeds. -/
theorem verbatims_outputPieces {o : Options} {root : Node}
    (h : ∀ m ∈ (Scope.ofDocument root).documentPoints root,
      m.abort? (.ofDocument o root) = none) :
    (outputPieces o root).flatMap Piece.verbatims =
      (verbatimsBy root).map (Node.verbatimText o) := by
  rw [← flatMap_verbatims_atoms, atoms_outputPieces, atomsAt, List.flatMap_assoc, verbatimsBy,
    verbatimsIn, List.filterMap_eq_flatMap_toList, List.map_flatMap]
  exact List.flatMap_congr fun m hm => verbatims_atoms o (h m hm)

/-- What is said of verbatim contents in the text of a document. -/
structure VerbatimsKept (o : Options) (root : Node) (text : String) : Prop where
  /-- The nodes of the body are visited first, and then those of the definitions in the order of
  their numbers. -/
  visits : verbatimsBy root = verbatimsIn (root.points false) ++
    (citedBy root).eraseDups.flatMap fun label =>
      verbatimsIn ((Scope.ofDocument root).notePoints label)
  /-- These are all verbatim nodes that the pass reaches. -/
  reached : ∀ n, n ∈ verbatimsBy root ↔
    (Scope.ofDocument root).Reached root n ∧ n.kind.isVerbatim = true
  /-- Each block of code holds a text, if it holds anything. -/
  blocks : ∀ n ∈ verbatimsBy root, n.kind.role = .codeBlock → ∃ s, HoldsText n.properties s
  /-- Their texts are found one after the other. -/
  kept : OccurInOrder ((verbatimsBy root).map (Node.verbatimText o)) text

/-- **Verbatim contents are kept** in the text of a document. -/
theorem renderDocument_verbatims {o : Options} {root : Node} {text : String}
    (h : (renderDocument o root).1 = .ok text) : VerbatimsKept o root text where
  visits := by
    rw [← notes_eq_eraseDups (abort?_of_renderDocument_ok h)]
    exact verbatimsBy_eq root
  reached n := by
    rw [verbatimsBy, mem_verbatimsIn, Scope.reached_iff.1]
  blocks n hn hkind := by
    obtain ⟨kind, ps, cs⟩ := n
    have hpoint := abort?_of_renderDocument_ok h _ (mem_verbatimsIn.1 hn).1
    obtain ⟨code, hcode⟩ := codeOf_of_abort? hkind hpoint
    obtain ⟨s, hs, -⟩ := codeOf_eq_ok.1 hcode
    exact ⟨s, hs⟩
  kept := by
    rw [renderDocument_ok h, ← verbatims_outputPieces (abort?_of_renderDocument_ok h)]
    exact occurInOrder_written _ _

set_option maxRecDepth 1500 in
/-- Code in an item of a quoted list and in a footnote, with blanks and empty lines at the ends of
its contents. -/
theorem renderDocument_verbatims_nested :
    VerbatimsKept { footnoteTitle := "N" }
      (.mk .orgData []
        [.mk .quoteBlock []
          [.mk .plainList [("type", .value (.text "unordered"))]
            [.mk .item []
              [.mk .code [("value", .value (.text " a "))] [],
                .mk .footnoteReference [("label", .value (.text "n"))] []]]],
          .mk .footnoteDefinition [("label", .value (.text "n"))]
            [.mk .fixedWidth [("value", .value (.text "\n  x\n   y"))] []]])
      ("[quote]\n[list]\n[*][font=monospace] a [/font]^1\n[/list]\n[/quote]" ++
        "[b][u]N[/u][/b]\n\n^1: [code]\n\nx\n y\n[/code]") :=
  renderDocument_verbatims rfl

end ForumMarkup
