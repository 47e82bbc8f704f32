import ForumMarkup.Proofs.Markup.Piece
import ForumMarkup.Proofs.Pass.Point
/-
**The pieces of a tree.**

What a pass writes for a tree can be told as a list of pieces, from the tree alone: footnotes are
marked by their labels, and neither numbers nor the order of the pass play a part.  The way of
trimming is a parameter, so that passes that trim differently can be compared.

Main definitions:

* `ForumMarkup.Trims` — a way of trimming pieces that fits a way of trimming text;
* `ForumMarkup.dressPieces`, `ForumMarkup.headlinePieces`, `ForumMarkup.linkPieces` and their
  siblings — the pieces of the parts of a node;
* `ForumMarkup.Node.pieces`, `ForumMarkup.listPieces`, `ForumMarkup.passagePieces` — the pieces of a
  tree, of a list of trees and of a passage;
* `ForumMarkup.Node.fragment` — the fragment that a node becomes.

Main results:

* `ForumMarkup.written_dressPieces`, `ForumMarkup.written_linkPieces` and their siblings — the text
  of the pieces of each part is what the pass writes for it.
-/

set_option autoImplicit false

namespace ForumMarkup

/-! ### Ways of trimming -/

/-- A way of trimming pieces that does to the pieces what an environment does to their text. -/
def Trims (env : Environment) (trim : List Piece → List Piece) : Prop :=
  ∀ numbers ps, written numbers (trim ps) = env.trim (written numbers ps)

theorem trims_trimPieces (options : Options) (scope? : Option Scope) :
    Trims { options := options, scope? := scope? } trimPieces :=
  fun numbers ps => written_trimPieces numbers ps

/-! ### The parts of a node -/

/-- The pieces of the term of an item. -/
def termPieces (tag : List Piece) : List Piece :=
  wrapped .italic "" tag ++ letters ": "

/-- The pieces of a container around those of its contents. -/
def dressPieces (trim : List Piece → List Piece) (kind : Kind) (term inner : List Piece) :
    List Piece :=
  match kind with
  | .bold => wrapped .bold "" inner
  | .italic => wrapped .italic "" inner
  | .underline => wrapped .underline "" inner
  | .strikeThrough => wrapped .strike "" inner
  | .quoteBlock => wrapped .quote "" (asBlockPieces (trim inner))
  | .item => .opening .bullet "" :: (term ++ trim inner ++ [.char '\n'])
  | .table => wrapped .table "" inner
  | .tableRow => if inner = [] then [] else wrapped .row "" inner
  | .tableCell => wrapped .cell "" inner
  | _ => inner

/-- The pieces of a leaf. -/
def leafPieces (o : Options) (kind : Kind) (ps : List (String × Property)) : List Piece :=
  match kind with
  | .plainText => letters (textIn "value" "" ps)
  | .code | .verbatim => [.verbatim .font "=monospace" (textIn "value" "" ps)]
  | .entity => letters ((((Node.valueIn? "utf8" ps).getD (.text "")).asText?).getD "")
  | .lineBreak => wrapped .lineBreak "" (letters o.lineBreak) ++ [.char '\n']
  | .horizontalRule => wrapped .rule "" []
  | _ => []

/-- The attributes of a tag as text. -/
def attributeText (attributes : List (String × String)) : String :=
  String.join (attributes.map fun a => " " ++ a.1 ++ "=\"" ++ a.2 ++ "\"")

/-- The pieces of a block of code. -/
def codePieces (o : Options) (kind : Kind) (ps : List (String × Property)) : List Piece :=
  match codeOf kind ps with
  | .ok code =>
    asBlockPieces [.verbatim .code (attributeText (codeAttributes o kind ps)) ("\n" ++ code)]
  | .error _ => []

/-- The mark of a level; nothing for a level that is refused. -/
def markOf (level : Value) : String :=
  match headlineMark level with
  | .ok mark => mark
  | .error _ => ""

/-- The pieces of the line of a headline. -/
def headlinePieces (mark : String) (title : List Piece) : List Piece :=
  wrapped .bold "" (wrapped .underline "" (letters mark ++ title)) ++ letters "\n\n"

/-- The pieces of a list around those of its items. -/
def plainListPieces (trim : List Piece → List Piece) (ps : List (String × Property))
    (items : List Piece) : List Piece :=
  match listTypeOf ps with
  | .ok .ordered => wrapped .list ("=" ++ "1") (asBlockPieces (trim items))
  | _ => wrapped .list "" (asBlockPieces (trim items))

/-- The pieces of a link around those of its description. -/
def linkPieces (ps : List (String × Property)) (description : List Piece) : List Piece :=
  match urlIn ps with
  | .ok url => wrapped .url ("=" ++ url) (if description = [] then letters url else description)
  | .error _ => description

/-- The pieces of a plain value in the place of a passage. -/
def wordedPieces (v : Value) : List Piece :=
  letters (v.asText?.getD "")

/-- The pieces of the blanks after a node. -/
def blankPieces (n : Node) : List Piece :=
  match n.postBlank with
  | .ok count => List.replicate count.toNat (.char (if n.kind.isObject then ' ' else '\n'))
  | .error _ => []

/-! ### The pieces of a tree -/

variable (env : Environment) (trim : List Piece → List Piece)

mutual
/-- The pieces of a tree, without the blanks after it. -/
def Node.pieces (inList : Bool) : Node → List Piece
  | .mk kind ps cs =>
    match kind.role with
    | .container =>
      dressPieces trim kind
        (if inList = true ∧ kind = .item then termPieces (passagePieces "tag" ps) else [])
        (listPieces false cs)
    | .leaf => leafPieces env.options kind ps
    | .codeBlock => codePieces env.options kind ps
    | .headline =>
      if isSuppressed ps then []
      else headlinePieces (markOf (writtenLevel env.scope? ps)) (passagePieces "title" ps) ++
        listPieces false cs
    | .list => plainListPieces trim ps (listPieces (isDescriptive ps) cs)
    | .link => linkPieces ps (listPieces false cs)
    | .reference => [.mark (labelIn ps), .char ' ']
    | .refused => []
  termination_by structural n => n
/-- The pieces of a list of trees, the blanks after each included. -/
def listPieces (inList : Bool) : List Node → List Piece
  | [] => []
  | n :: ns => (n.pieces inList ++ blankPieces n) ++ listPieces inList ns
  termination_by structural ns => ns
/-- The pieces of the passage under a name. -/
def passagePieces (name : String) : List (String × Property) → List Piece
  | [] => []
  | (k, .nodes ns) :: ps => if k == name then listPieces false ns else passagePieces name ps
  | (k, .value v) :: ps => if k == name then wordedPieces v else passagePieces name ps
  termination_by structural ps => ps
end

/-- The fragment that a node becomes, when `ps` are its pieces. -/
def Node.fragment (numbers : List String) (n : Node) (ps : List Piece) : Fragment :=
  match n.stray? with
  | some v => .stray v
  | none => .text (written numbers ps)

/-- The fragments of a list of nodes, the blanks after each included. -/
def listFragments (numbers : List String) (inList : Bool) (ns : List Node) : List Fragment :=
  ns.map fun n => n.fragment numbers (n.pieces env trim inList ++ blankPieces n)

/-! ### The text of the parts -/

variable {env trim} (numbers : List String)

theorem written_termPieces (tag : List Piece) :
    written numbers (termPieces tag) = formatTerm (written numbers tag) := by
  simp [termPieces, formatTerm, written_wrap]

theorem written_dressPieces (ht : Trims env trim) (kind : Kind) (term inner : List Piece) :
    written numbers (dressPieces trim kind term inner) =
      dress env kind (written numbers term) (written numbers inner) := by
  cases kind
  case tableRow =>
      rw [dressPieces, dress]
      by_cases h : inner = []
      · simp [h]
      -- The pass looks at the text of the row, which is empty exactly when it has no pieces.
      · have hne : written numbers inner ≠ "" := fun e => h ((written_eq_empty_iff _ _).1 e)
        simp [h, hne, written_wrap]
  case quoteBlock => simp [dressPieces, dress, written_wrap, ht numbers inner]
  case item =>
      simp [dressPieces, dress, formatItem, ← ht numbers inner, written_eq_iff, Piece.chars, bullet]
  all_goals simp only [dressPieces, dress, written_wrap]

theorem written_leafPieces (o : Options) (kind : Kind) (ps : List (String × Property))
    (cs : List Node) (h : kind.role = .leaf) :
    (Node.mk kind ps cs).fragment numbers (leafPieces o kind ps) = leafFragment o kind ps := by
  cases kind <;> try cases h
  case entity =>
      simp only [Node.fragment, Node.stray?, leafPieces, leafFragment, if_true, Fragment.ofValue]
      cases ((Node.valueIn? "utf8" ps).getD (.text "")).asText? <;> simp
  all_goals
    simp [Node.fragment, Node.stray?, leafPieces, leafFragment, written_eq_iff, Piece.chars,
      Tag.wrapValue, wrapValue, written_wrap]

theorem written_codePieces (o : Options) {kind : Kind} {ps : List (String × Property)}
    {code : String} (h : codeOf kind ps = .ok code) :
    Fragment.text (written numbers (codePieces o kind ps)) =
      codeFragment code (codeAttributes o kind ps) := by
  simp [codePieces, codeFragment, h, written_eq_iff, Piece.chars, asBlockPieces, asBlock, wrapWith,
    attributeText]

theorem written_headlinePieces (mark : String) (title : List Piece) :
    written numbers (headlinePieces mark title) = headlineLine mark (written numbers title) := by
  simp [headlinePieces, headlineLine, written_wrap]

theorem written_plainListPieces (ht : Trims env trim) {ps : List (String × Property)}
    {type : ListType} (h : listTypeOf ps = .ok type) (items : List Piece) :
    written numbers (plainListPieces trim ps items) =
      formatList env type (written numbers items) := by
  cases type with
  | ordered =>
      have hone : written numbers (plainListPieces trim ps items) =
          written numbers (wrapped .list ("=" ++ "1") (asBlockPieces (trim items))) := by
        simp only [plainListPieces, h]
      rw [hone, written_wrapValue, written_asBlock, ht numbers items]
      rfl
  | unordered => simp [plainListPieces, h, formatList, written_wrap, ht numbers items]
  | descriptive => simp [plainListPieces, h, formatList, written_wrap, ht numbers items]

theorem written_linkPieces {ps : List (String × Property)} {url : String} (h : urlIn ps = .ok url)
    (description : List Piece) :
    written numbers (linkPieces ps description) = formatLink url (written numbers description) := by
  simp only [linkPieces, h, written_wrapValue, formatLink]
  by_cases hd : description = []
  · simp [hd]
  · have hne : written numbers description ≠ "" := fun e => hd ((written_eq_empty_iff _ _).1 e)
    simp [hd, hne]

end ForumMarkup
