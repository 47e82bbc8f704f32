import ForumMarkup.Proofs.Pass.Course
import ForumMarkup.Proofs.Value.Entry
/-
**The order of the footnotes.**

The list of footnotes grows while it is written: a definition can refer to footnotes that have no
number yet.  The order in which definitions are written is still a function of the tree, because
writing one numbers the labels of its points and nothing else.  Every label that is numbered in the
end is written, in the order of the numbers.

Main definitions:

* `ForumMarkup.Scope.notePoints` — the points of the definition of a label;
* `ForumMarkup.Scope.noteOrder`, `ForumMarkup.Scope.notes` — the labels whose definitions are
  written, in order;
* `ForumMarkup.Scope.documentPoints` — the points of a whole pass.

Main results:

* `ForumMarkup.lookupEntry_collect` — the definition of a label is the first one in document order;
* `ForumMarkup.Scope.take_append_noteOrder` — **the list of footnotes catches up with the numbers**;
* `ForumMarkup.Scope.notes_eq` — the labels that are written are those that the pass numbers.
-/

set_option autoImplicit false

namespace ForumMarkup

/-! ### Definitions -/

/-- A definition is added unless its label is taken. -/
theorem lookupEntry_addDefinition (label : String) (definitions : List (String × Node)) (n : Node) :
    lookupEntry label (FootnoteTable.addDefinition definitions n) =
      (lookupEntry label definitions).or
        (if FootnoteTable.definedLabel? n = some label then some n else none) := by
  unfold FootnoteTable.addDefinition
  cases hn : FootnoteTable.definedLabel? n with
  | none => simp
  | some l =>
      by_cases hl : l = label
      · subst hl
        cases hd : lookupEntry l definitions <;> simp [hd, lookupEntry_append, lookupEntry]
      · cases hd : (lookupEntry l definitions).isSome <;>
          simp [hd, hl, lookupEntry_append, lookupEntry]

/-- The definition of a label is the first one in document order. -/
theorem lookupEntry_collect (label : String) (ns : List Node) :
    lookupEntry label (FootnoteTable.collect ns) =
      ns.find? fun n => FootnoteTable.definedLabel? n = some label := by
  -- The fold starts from any definitions, because it has some after the first node.
  have hfold : ∀ definitions, lookupEntry label (ns.foldl FootnoteTable.addDefinition definitions) =
      (lookupEntry label definitions).or
        (ns.find? fun n => FootnoteTable.definedLabel? n = some label) := by
    induction ns with
    | nil => simp
    | cons n ns ih =>
        intro definitions
        rw [List.foldl_cons, ih, lookupEntry_addDefinition, Option.or_assoc, List.find?_cons]
        by_cases hn : FootnoteTable.definedLabel? n = some label <;> simp [hn]
  exact hfold []

/-- The definition of a label is a node of the document. -/
theorem Scope.mem_preorder_of_lookup {label : String} {root d : Node}
    (h : lookupEntry label (Scope.ofDocument root).definitions = some d) : d ∈ root.preorder :=
  List.mem_of_find?_eq_some ((lookupEntry_collect label root.preorder).symm.trans h)

/-! ### Labels in order -/

theorem nodup_addLabel {labels : List String} (h : labels.Nodup) (label : String) :
    (addLabel labels label).Nodup := by
  unfold addLabel
  split
  · exact h
  · rename_i hmem
    refine List.nodup_append.2 ⟨h, by simp, ?_⟩
    rintro a ha b hb rfl
    exact hmem (List.mem_singleton.1 hb ▸ ha)

theorem nodup_addLabels {labels : List String} (h : labels.Nodup) (more : List String) :
    (addLabels labels more).Nodup := by
  induction more generalizing labels with
  | nil => exact h
  | cons label more ih => exact ih (nodup_addLabel h label)

theorem numberedIn_append (scope? : Option Scope) (ms ms' : List Point) :
    numberedIn scope? (ms ++ ms') = numberedIn scope? ms ++ numberedIn scope? ms' :=
  List.filterMap_append

namespace Scope

variable (s : Scope)

/-- Distinct labels with definitions are no more than the definitions. -/
theorem length_le_of_defines {labels : List String} (hnodup : labels.Nodup)
    (hdefined : ∀ label ∈ labels, s.defines label = true) :
    labels.length ≤ s.definitions.length :=
  FootnoteTable.length_numbers_le (t := { definitions := s.definitions, numbers := labels })
    ⟨hnodup, fun label hl => mem_keys_of_lookupEntry (hdefined label hl)⟩

/-- Labels that points have numbered have definitions. -/
theorem defines_of_mem_numberedIn {ms : List Point} {label : String}
    (h : label ∈ numberedIn (some s) ms) : s.defines label = true := by
  obtain ⟨m, -, hm⟩ := List.mem_filterMap.1 h
  exact m.defines_of_numbered hm

theorem defines_of_mem_addLabels {labels : List String}
    (hdefined : ∀ label ∈ labels, s.defines label = true) (ms : List Point) :
    ∀ label ∈ addLabels labels (numberedIn (some s) ms), s.defines label = true := by
  intro label hl
  rcases mem_addLabels.1 hl with hl | hl
  · exact hdefined label hl
  · exact s.defines_of_mem_numberedIn hl

/-! ### The points of the footnotes -/

/-- The points of the definition of a label. -/
def notePoints (label : String) : List Point :=
  match lookupEntry label s.definitions with
  | some d => contentPoints d.children
  | none => []

/-- The labels that the definition of a label numbers. -/
def noteLabels (label : String) : List String :=
  numberedIn (some s) (s.notePoints label)

/-- The labels whose definitions are written from a place on, when `labels` have been numbered. -/
def noteOrder : (bound place : Nat) → (labels : List String) → List String
  | 0, _, _ => []
  | bound + 1, place, labels =>
    match labels[place]? with
    | none => []
    | some label =>
      label :: noteOrder bound (place + 1) (addLabels labels (s.noteLabels label))

theorem noteOrder_of_none {bound place : Nat} {labels : List String}
    (hlabel : labels[place]? = none) : s.noteOrder bound place labels = [] := by
  cases bound with
  | zero => rfl
  | succ bound => simp only [noteOrder, hlabel]

/-- The labels whose definitions are written after the body of a document, in order. -/
def notes (root : Node) : List String :=
  s.noteOrder s.definitions.length 0 (addLabels [] (numberedIn (some s) (root.points false)))

/-- The points of a pass over a document. -/
def documentPoints (root : Node) : List Point :=
  .beginning root :: (root.points false ++ .blanks root ::
    ((s.notes root).flatMap s.notePoints ++ [.listed, .joined [root]]))

theorem notePoints_subset {root : Node} {label : String} (h : label ∈ s.notes root) :
    s.notePoints label ⊆ s.documentPoints root := by
  intro m hm
  have hall : m ∈ (s.notes root).flatMap s.notePoints := List.mem_flatMap.2 ⟨label, h, hm⟩
  simp [documentPoints, hall]

/-! ### The list catches up with the numbers -/

theorem numberedIn_flatMap_notePoints (labels : List String) :
    numberedIn (some s) (labels.flatMap s.notePoints) = labels.flatMap s.noteLabels := by
  induction labels with
  | nil => rfl
  | cons label labels ih =>
      rw [List.flatMap_cons, List.flatMap_cons, numberedIn_append, ih, noteLabels]

/-- **The list of footnotes catches up with the numbers**: what it has written before a place and
what it writes from there on are all labels that are numbered in the end. -/
theorem take_append_noteOrder {labels : List String} (hnodup : labels.Nodup)
    (hdefined : ∀ label ∈ labels, s.defines label = true) {bound place : Nat}
    (hbound : s.definitions.length ≤ bound + place) :
    labels.take place ++ s.noteOrder bound place labels =
      addLabels labels ((s.noteOrder bound place labels).flatMap s.noteLabels) := by
  -- The bound falls as the place rises, so it only runs out when all labels have been written.
  induction bound generalizing place labels with
  | zero =>
      have hlength : labels.length ≤ place := by
        have := s.length_le_of_defines hnodup hdefined
        omega
      simp [noteOrder, addLabels, List.take_of_length_le hlength]
  | succ bound ih =>
      cases hlabel : labels[place]? with
      | none =>
          have hlength : labels.length ≤ place := List.getElem?_eq_none_iff.1 hlabel
          simp [s.noteOrder_of_none hlabel, addLabels, List.take_of_length_le hlength]
      | some label =>
          have horder : s.noteOrder (bound + 1) place labels = label ::
              s.noteOrder bound (place + 1) (addLabels labels (s.noteLabels label)) := by
            simp only [noteOrder, hlabel]
          have hdefined' : ∀ l ∈ addLabels labels (s.noteLabels label), s.defines l = true :=
            s.defines_of_mem_addLabels hdefined (s.notePoints label)
          have hbound' : s.definitions.length ≤ bound + (place + 1) := by omega
          have hrest := ih (nodup_addLabels hnodup (s.noteLabels label)) hdefined' hbound'
          -- Numbers are never taken back, so the labels before the next place are the same.
          have htake : (addLabels labels (s.noteLabels label)).take (place + 1) =
              labels.take place ++ [label] := by
            obtain ⟨others, hothers⟩ := prefix_addLabels labels (s.noteLabels label)
            have hlt : place < labels.length := (List.getElem?_eq_some_iff.1 hlabel).1
            rw [← hothers, List.take_append_of_le_length hlt, List.take_add_one, hlabel]
            rfl
          rw [htake, List.append_assoc, List.singleton_append] at hrest
          rw [horder, hrest, List.flatMap_cons, addLabels_append]

/-- The labels that a document refers to, in the order of the pass: those of its body, and those of
the definitions that are written. -/
def visited (root : Node) : List String :=
  numberedIn (some s) (root.points false) ++ (s.notes root).flatMap s.noteLabels

theorem numberedIn_documentPoints (root : Node) :
    numberedIn (some s) (s.documentPoints root) = s.visited root := by
  have hbegan : Point.numbered? (some s) (.beginning root) = none := rfl
  have hblanks : Point.numbered? (some s) (.blanks root) = none := rfl
  have hend : numberedIn (some s) [.listed, .joined [root]] = [] := rfl
  rw [visited, ← numberedIn_flatMap_notePoints, documentPoints, numberedIn,
    List.filterMap_cons_none hbegan, List.filterMap_append, List.filterMap_cons_none hblanks,
    ← numberedIn, ← numberedIn, numberedIn_append, hend, List.append_nil]

/-- The labels that are written are those that the pass numbers. -/
theorem notes_eq (root : Node) : s.notes root = addLabels [] (s.visited root) := by
  have hdefined : ∀ label ∈ addLabels [] (numberedIn (some s) (root.points false)),
      s.defines label = true := s.defines_of_mem_addLabels (List.forall_mem_nil _) _
  have hbound : s.definitions.length ≤ s.definitions.length + 0 := Nat.le_refl _
  have hall := s.take_append_noteOrder (nodup_addLabels List.nodup_nil _) hdefined hbound
  rw [visited, addLabels_append]
  exact hall

end Scope

end ForumMarkup
