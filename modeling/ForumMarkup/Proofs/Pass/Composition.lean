import ForumMarkup.Proofs.Pass.Document
import Mathlib.Data.List.Chain
/-
**How markup is put together.**

Whatever the tree, its pieces are put together in a few ways only: pieces follow one another, pieces
stand between the two tags of a pair, and pieces are trimmed with a line feed after them.  What
holds of single pieces and is kept by these ways holds of all markup.

Main definitions:

* `ForumMarkup.Composed` — pieces that are put together in these ways;
* `ForumMarkup.MayFollow` — what may stand after the mark of a footnote.

Main results:

* `ForumMarkup.composed_pieces`, `ForumMarkup.composed_outputPieces` — the pieces of a tree and of a
  document are put together in these ways;
* `ForumMarkup.isChain_outputPieces` — a mark is followed by a blank, unless that has been trimmed.
-/

set_option autoImplicit false

namespace ForumMarkup

/-- How the pieces of markup are put together. -/
inductive Composed : List Piece → Prop
  | nil : Composed []
  | append {ps qs : List Piece} : Composed ps → Composed qs → Composed (ps ++ qs)
  | char (c : Char) : Composed [.char c]
  /-- The mark of a footnote has a blank after it. -/
  | mark (label : String) : Composed [.mark label, .char ' ']
  /-- The bullet is the only tag without a closing one. -/
  | bullet : Composed [.opening .bullet ""]
  | verbatim {tag : Tag} (rest inner : String) : tag ≠ .bullet → Composed [.verbatim tag rest inner]
  | wrapped {tag : Tag} (rest : String) {ps : List Piece} :
      tag ≠ .bullet → Composed ps → Composed (wrapped tag rest ps)
  /-- What is trimmed ends its line. -/
  | trimmed {ps : List Piece} : Composed ps → Composed (trimPieces ps ++ [.char '\n'])

namespace Composed

theorem letters (s : String) : Composed (letters s) := by
  unfold ForumMarkup.letters
  induction s.toList with
  | nil => exact nil
  | cons c cs ih => exact (char c).append ih

theorem replicate (n : Nat) (c : Char) : Composed (List.replicate n (.char c)) := by
  induction n with
  | zero => exact nil
  | succ n ih => exact (char c).append ih

theorem block {ps : List Piece} (h : Composed ps) : Composed (asBlockPieces (trimPieces ps)) :=
  (char '\n').append h.trimmed

variable {ps qs : List Piece}

theorem termPieces (h : Composed ps) : Composed (termPieces ps) :=
  (wrapped "" (by decide) h).append (.letters ": ")

theorem dressPieces (kind : Kind) (hterm : Composed ps) (hinner : Composed qs) :
    Composed (dressPieces trimPieces kind ps qs) := by
  cases kind
  case tableRow =>
      simp only [ForumMarkup.dressPieces]
      split
      · exact nil
      · exact .wrapped _ (by decide) hinner
  case quoteBlock => exact .wrapped _ (by decide) hinner.block
  case item =>
      have hline := hterm.append hinner.trimmed
      rw [← List.append_assoc] at hline
      exact bullet.append hline
  all_goals first
    | exact hinner
    | exact .wrapped _ (by decide) hinner

theorem leafPieces (o : Options) (kind : Kind) (properties : List (String × Property)) :
    Composed (leafPieces o kind properties) := by
  cases kind
  case entity => exact .letters _
  case lineBreak => exact (wrapped _ (by decide) (.letters _)).append (char _)
  case horizontalRule => exact .wrapped _ (by decide) nil
  case plainText => exact .letters _
  case code => exact .verbatim _ _ (by decide)
  case verbatim => exact .verbatim _ _ (by decide)
  all_goals exact nil

theorem codePieces (o : Options) (kind : Kind) (properties : List (String × Property)) :
    Composed (codePieces o kind properties) := by
  unfold ForumMarkup.codePieces
  split
  · exact (char '\n').append ((verbatim _ _ (by decide)).append (char '\n'))
  · exact nil

theorem headlinePieces (mark : String) (h : Composed ps) : Composed (headlinePieces mark ps) :=
  (wrapped _ (by decide) (wrapped _ (by decide) ((letters mark).append h))).append (letters _)

theorem plainListPieces (properties : List (String × Property)) (h : Composed ps) :
    Composed (plainListPieces trimPieces properties ps) := by
  unfold ForumMarkup.plainListPieces
  split
  · exact .wrapped _ (by decide) h.block
  · exact .wrapped _ (by decide) h.block

theorem linkPieces (properties : List (String × Property)) (h : Composed ps) :
    Composed (linkPieces properties ps) := by
  unfold ForumMarkup.linkPieces
  split
  · refine .wrapped _ (by decide) ?_
    split
    · exact .letters _
    · exact h
  · exact h

theorem wordedPieces (v : Value) : Composed (wordedPieces v) :=
  .letters _

theorem blankPieces (n : Node) : Composed (blankPieces n) := by
  unfold ForumMarkup.blankPieces
  split
  · exact .replicate _ _
  · exact nil

end Composed

/-- The pieces of a tree are put together in these ways. -/
theorem composed_pieces (env : Environment) : TreeCases
    (fun n => ∀ inList, Composed (n.pieces env trimPieces inList))
    (fun ns => ∀ inList, Composed (listPieces env trimPieces inList ns))
    (fun ps => ∀ name, Composed (passagePieces env trimPieces name ps)) where
  node kind ps cs hps hcs := by
    intro inList
    rw [Node.pieces]
    cases kind.role with
    | container =>
        refine .dressPieces kind ?_ (hcs false)
        split
        · exact .termPieces (hps "tag")
        · exact .nil
    | leaf => exact .leafPieces _ kind ps
    | codeBlock => exact .codePieces _ kind ps
    | headline =>
        dsimp only
        split
        · exact .nil
        · exact (Composed.headlinePieces _ (hps "title")).append (hcs false)
    | list => exact .plainListPieces ps (hcs _)
    | link => exact .linkPieces ps (hcs false)
    | reference => exact .mark _
    | refused => exact .nil
  nil := fun _ => .nil
  cons n ns hn hns := fun inList => ((hn inList).append (.blankPieces n)).append (hns inList)
  bare := fun _ => .nil
  value name v ps hps := by
    intro sought
    rw [passagePieces]
    split
    · exact .wordedPieces v
    · exact hps sought
  nodes name ns ps hns hps := by
    intro sought
    rw [passagePieces]
    split
    · exact hns false
    · exact hps sought

theorem Composed.intercalate {lines : List (List Piece)}
    (h : ∀ line ∈ lines, Composed (line ++ [.char '\n'])) :
    Composed ((ForumMarkup.letters "\n").intercalate lines ++ [.char '\n']) := by
  induction lines with
  | nil => exact char '\n'
  | cons line lines ih =>
      -- The line feed between two lines belongs to the first of them.
      have hline := h line List.mem_cons_self
      cases lines with
      | nil => simpa using hline
      | cons line' lines =>
          rw [List.intercalate_cons_cons, List.append_assoc, List.append_assoc, ← List.append_assoc]
          exact hline.append (ih fun l hl => h l (List.mem_cons_of_mem _ hl))

/-- So are the pieces of a document, up to the line feed at its end, which is missing where the last
footnote is trimmed. -/
theorem composed_outputPieces (o : Options) (root : Node) :
    Composed (outputPieces o root ++ [.char '\n']) := by
  have htree := composed_pieces (passEnvironment o root)
  have hbody := (htree.holds root false).append (.blankPieces root)
  have hline : ∀ label place, Composed (linePieces (passEnvironment o root) trimPieces
      (.ofDocument root) label place ++ [.char '\n']) := by
    intro label place
    rw [linePieces, List.append_assoc]
    refine (Composed.letters _).append ?_
    unfold notePieces
    split
    · exact (htree.holds_nodes _ false).trimmed
    · exact .char '\n'
  rw [outputPieces, documentPieces, List.append_assoc]
  refine hbody.append ?_
  unfold sectionPieces
  split
  · exact .char '\n'
  · rw [List.append_assoc]
    refine (Composed.headlinePieces "" (.letters _)).append (.intercalate fun line hl => ?_)
    obtain ⟨l, -, rfl⟩ := List.mem_map.1 hl
    exact hline l.1 l.2

/-! ### What follows a mark -/

/-- What may stand after the mark of a footnote: its blank, or the line feed after a text whose end,
the blank included, has been trimmed. -/
def MayFollow (p q : Piece) : Prop :=
  ∀ label, p = .mark label → q = .char ' ' ∨ q = .char '\n'

theorem mayFollow_of_ne_mark {p : Piece} (h : ∀ label, p ≠ .mark label) (q : Piece) :
    MayFollow p q :=
  fun label hp => absurd hp (h label)

/-- No mark comes last, and only its blank or a line feed comes after one. -/
structure MarksClosed (ps : List Piece) : Prop where
  chain : ps.IsChain MayFollow
  last : ∀ label, ps.getLast? ≠ some (.mark label)

theorem MarksClosed.append {ps qs : List Piece} (h : MarksClosed ps) (h' : MarksClosed qs) :
    MarksClosed (ps ++ qs) := by
  refine ⟨List.isChain_append.2 ⟨h.chain, h'.chain, fun p hp q _ => ?_⟩, fun label hl => ?_⟩
  · refine mayFollow_of_ne_mark ?_ q
    rintro label rfl
    exact h.last label hp
  · rw [List.getLast?_append, Option.or_eq_some_iff] at hl
    rcases hl with hl | ⟨-, hl⟩
    · exact h'.last label hl
    · exact h.last label hl

theorem MarksClosed.single {p : Piece} (h : ∀ label, p ≠ .mark label) : MarksClosed [p] :=
  ⟨List.isChain_singleton p, fun label hl => h label (Option.some.inj hl)⟩

end ForumMarkup
