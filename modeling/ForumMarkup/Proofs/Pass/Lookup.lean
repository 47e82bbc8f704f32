import ForumMarkup.Proofs.Pass.Numbering
import ForumMarkup.Proofs.Pass.Options
/-
**What a pass looks up.**

Of the definitions of a document a pass only sees those whose labels it looks up, and of its
headlines only the least level.  So two scopes that agree on both make the same pass over one tree.
Which labels are looked up shows while the pass runs: the list of footnotes grows, and the pass may
end before it is complete.

Main definitions:

* `ForumMarkup.Point.lookup?` — the label that a point looks up;
* `ForumMarkup.Scope.lookups`, `ForumMarkup.lookedUp` — the labels that a run through points looks
  up before it ends, and those that a pass over a document does;
* `ForumMarkup.Scope.Agrees` — scopes with the same least level and the same definitions of labels.

Main results:

* `ForumMarkup.Scope.Agrees.proceed_eq` — runs with scopes that agree on what is looked up;
* `ForumMarkup.Scope.Agrees.noteOrder_eq` — the list of footnotes grows alike;
* `ForumMarkup.Scope.Agrees.document_run_eq` — **scopes that agree on what is looked up make the
  same pass**;
* `ForumMarkup.lookedUp_eq_citedBy` — a pass that succeeds looks up the labels of all references
  that it visits.
-/

set_option autoImplicit false

namespace ForumMarkup

/-! ### Labels that are looked up -/

/-- The label that a point looks up: that of a reference which does not carry its definition, if it
can be shown. -/
def Point.lookup? : Point → Option String
  | .construct (.mk .footnoteReference ps cs) =>
    if isInlineFootnote ps cs then none
    else if isShowableIn "label" ps then some (labelIn ps)
    else none
  | _ => none

namespace Scope

/-- The labels that a run through points looks up, the one that ends it included. -/
def lookups (s : Scope) (languages : Bool) : List Point → List String
  | [] => []
  | m :: ms =>
    m.lookup?.toList ++
      if (m.abort? ⟨languages, some s⟩).isSome then [] else lookups s languages ms

/-- Two scopes have the same least level, and the same definitions of some labels. -/
structure Agrees (s s' : Scope) (labels : List String) : Prop where
  level : s'.topLevel.integer? = s.topLevel.integer?
  lookup : ∀ label ∈ labels, lookupEntry label s'.definitions = lookupEntry label s.definitions

end Scope

/-- The labels that a pass over a document looks up. -/
def lookedUp (o : Options) (root : Node) : List String :=
  (Scope.ofDocument root).lookups o.codeLanguage ((Scope.ofDocument root).documentPoints root)

namespace Scope

variable {s s' : Scope} {languages : Bool}

theorem Agrees.mono {labels labels' : List String} (h : s.Agrees s' labels)
    (hsub : labels' ⊆ labels) : s.Agrees s' labels' :=
  ⟨h.level, fun label hl => h.lookup label (hsub hl)⟩

/-- The labels that are looked up before a run ends do not depend on what would follow. -/
theorem lookups_subset_append (ms ms' : List Point) :
    s.lookups languages ms ⊆ s.lookups languages (ms ++ ms') := by
  induction ms with
  | nil => exact List.nil_subset _
  | cons m ms ih =>
      rw [List.cons_append, lookups, lookups]
      split
      · exact List.Subset.refl _
      · intro label hl
        rcases List.mem_append.1 hl with hl | hl
        · exact List.mem_append_left _ hl
        · exact List.mem_append_right _ (ih hl)

theorem lookups_append {ms : List Point} (hnone : ∀ m ∈ ms, m.abort? ⟨languages, some s⟩ = none)
    (ms' : List Point) :
    s.lookups languages (ms ++ ms') = s.lookups languages ms ++ s.lookups languages ms' := by
  induction ms with
  | nil => rfl
  | cons m ms ih =>
      obtain ⟨hm, hms⟩ := List.forall_mem_cons.1 hnone
      rw [List.cons_append, lookups, lookups, hm, ih hms]
      exact (List.append_assoc _ _ _).symm

theorem lookup?_of_abort? {m : Point} (h : m.abort? ⟨languages, some s⟩ = none) :
    m.lookup?.toList = m.cited := by
  cases m with
  | construct n =>
      obtain ⟨kind, ps, cs⟩ := n
      by_cases hkind : kind = .footnoteReference
      · subst hkind
        cases hinline : isInlineFootnote ps cs with
        | true => simp [Point.abort?, constructAbort?, Kind.role, hinline] at h
        | false =>
            cases hshowable : isShowableIn "label" ps with
            | true =>
                rw [Point.lookup?, hinline, hshowable]
                rfl
            | false => simp [Point.abort?, constructAbort?, Kind.role, hinline, hshowable] at h
      · have hrole : kind.role ≠ .reference := fun hrole =>
          hkind (Kind.eq_footnoteReference hrole)
        rw [cited_construct ps cs hrole, Point.lookup?]
        · rfl
        · rintro _ _ ⟨⟩
          exact hkind rfl
  | _ => rfl

/-- A run that does not end early looks up the labels of all its references. -/
theorem lookups_eq {ms : List Point} (hnone : ∀ m ∈ ms, m.abort? ⟨languages, some s⟩ = none) :
    s.lookups languages ms = citedIn ms := by
  induction ms with
  | nil => rfl
  | cons m ms ih =>
      obtain ⟨hm, hms⟩ := List.forall_mem_cons.1 hnone
      rw [lookups, hm, lookup?_of_abort? hm, citedIn_cons]
      exact congrArg (m.cited ++ ·) (ih hms)

/-! ### Points -/

theorem Agrees.writtenLevel_eq {labels : List String} (h : s.Agrees s' labels)
    (ps : List (String × Property)) : writtenLevel (some s') ps = writtenLevel (some s) ps := by
  have hrelative : ∀ level, s'.relativeLevel level = s.relativeLevel level := by
    intro level
    rw [relativeLevel, relativeLevel, h.level]
  unfold writtenLevel
  cases (Node.valueIn? "level" ps).getD (.int 1) with
  | int level => exact congrArg Value.int (hrelative level)
  | _ => rfl

theorem Agrees.defines_eq {ps : List (String × Property)} {cs : List Node}
    (hinline : isInlineFootnote ps cs = false) (hshowable : isShowableIn "label" ps = true)
    (h : s.Agrees s' (Point.construct (.mk .footnoteReference ps cs)).lookup?.toList) :
    s'.defines (labelIn ps) = s.defines (labelIn ps) := by
  have hlookup : (Point.construct (.mk .footnoteReference ps cs)).lookup? = some (labelIn ps) := by
    rw [Point.lookup?, hinline, hshowable]
    rfl
  rw [defines, defines, h.lookup (labelIn ps) (by simp [hlookup])]

/-- A point ends a run in the same way if the label that it looks up has the same definition. -/
theorem Agrees.abort?_eq {m : Point} (h : s.Agrees s' m.lookup?.toList) :
    m.abort? ⟨languages, some s'⟩ = m.abort? ⟨languages, some s⟩ := by
  cases m with
  | construct n =>
      obtain ⟨kind, ps, cs⟩ := n
      rw [Point.abort?, Point.abort?, constructAbort?, constructAbort?]
      cases hrole : kind.role with
      | headline => rw [h.writtenLevel_eq]
      | reference =>
          obtain rfl := Kind.eq_footnoteReference hrole
          cases hinline : isInlineFootnote ps cs with
          | true => rfl
          | false =>
              cases hshowable : isShowableIn "label" ps with
              | true => simp only [Agrees.defines_eq hinline hshowable h]
              | false => rfl
      | _ => rfl
  | _ => rfl

theorem Agrees.numbered?_eq {m : Point} (h : s.Agrees s' m.lookup?.toList) :
    m.numbered? (some s') = m.numbered? (some s) := by
  cases m with
  | construct n =>
      obtain ⟨kind, ps, cs⟩ := n
      rw [Point.numbered?, Point.numbered?, Node.numbered?, Node.numbered?]
      by_cases hreference : kind = .footnoteReference ∧ isInlineFootnote ps cs = false
      · obtain ⟨rfl, hinline⟩ := hreference
        cases hshowable : isShowableIn "label" ps with
        | true => simp only [Agrees.defines_eq hinline hshowable h]
        | false => simp
      · rw [if_neg hreference, if_neg hreference]
  | _ => rfl

/-! ### Runs -/

/-- Scopes that agree on what is looked up make the same run. -/
theorem Agrees.proceed_eq {ms : List Point} (h : s.Agrees s' (s.lookups languages ms))
    (p : Progress) :
    proceed ⟨languages, some s'⟩ ms p = proceed ⟨languages, some s⟩ ms p := by
  induction ms generalizing p with
  | nil => rfl
  | cons m ms ih =>
      have hm : s.Agrees s' m.lookup?.toList := h.mono (List.subset_append_left _ _)
      rw [proceed, proceed, hm.abort?_eq]
      cases habort : m.abort? ⟨languages, some s⟩ with
      | some e => rfl
      | none =>
          have hms : s.Agrees s' (s.lookups languages ms) := by
            refine h.mono fun label hl => ?_
            rw [lookups, habort]
            exact List.mem_append_right _ hl
          rw [Point.advance, Point.advance, hm.numbered?_eq]
          exact ih hms _

/-- They number the same labels, if nothing ends the run. -/
theorem Agrees.numberedIn_eq {ms : List Point}
    (hnone : ∀ m ∈ ms, m.abort? ⟨languages, some s⟩ = none)
    (h : s.Agrees s' (s.lookups languages ms)) :
    numberedIn (some s') ms = numberedIn (some s) ms := by
  have hsame := (h.proceed_eq {}).trans (proceed_of_forall hnone {})
  rw [numberedIn_of_forall (forall_of_proceed hsame), numberedIn_of_forall hnone]

/-- When points have been passed, the labels that they have numbered are the same, and have been
looked up. -/
theorem Agrees.after {labels : List String} {ms rest : List Point}
    (hnone : ∀ m ∈ ms, m.abort? ⟨languages, some s⟩ = none)
    (h : s.Agrees s' (labels ++ s.lookups languages (ms ++ rest))) :
    numberedIn (some s') ms = numberedIn (some s) ms ∧
      s.Agrees s' (addLabels labels (numberedIn (some s) ms) ++ s.lookups languages rest) := by
  rw [lookups_append hnone] at h
  have hms : s.lookups languages ms ⊆
      labels ++ (s.lookups languages ms ++ s.lookups languages rest) :=
    List.subset_append_of_subset_right _ (List.subset_append_left _ _)
  refine ⟨(h.mono hms).numberedIn_eq hnone, h.mono fun label hl => ?_⟩
  rcases List.mem_append.1 hl with hl | hl
  · rcases mem_addLabels.1 hl with hl | hl
    · exact List.mem_append_left _ hl
    · rw [numberedIn_of_forall hnone, ← lookups_eq hnone] at hl
      exact hms hl
  · exact List.mem_append_right _ (List.mem_append_right _ hl)

/-! ### The list of footnotes -/

theorem notePoints_eq {label : String}
    (h : lookupEntry label s'.definitions = lookupEntry label s.definitions) :
    s'.notePoints label = s.notePoints label := by
  rw [notePoints, notePoints, h]

/-- While labels are left, a bound that suffices is not reached. -/
theorem exists_noteOrder_eq {bound place : Nat} {labels : List String} (hnodup : labels.Nodup)
    (hdefined : ∀ label ∈ labels, s.defines label = true)
    (hbound : s.definitions.length ≤ bound + place) {label : String}
    (hlabel : labels[place]? = some label) :
    ∃ rest, bound = rest + 1 ∧ s.noteOrder bound place labels = label ::
      s.noteOrder rest (place + 1) (addLabels labels (s.noteLabels label)) := by
  have hlt : place < labels.length := (List.getElem?_eq_some_iff.1 hlabel).1
  have hle := s.length_le_of_defines hnodup hdefined
  obtain ⟨rest, rfl⟩ : ∃ rest, bound = rest + 1 := ⟨bound - 1, by omega⟩
  exact ⟨rest, rfl, by simp only [noteOrder, hlabel]⟩

/-- **The list of footnotes grows alike** with scopes that agree on what is looked up while it is
written.  The bounds of the two need not be the same, as long as both suffice. -/
theorem Agrees.noteOrder_eq {bound bound' place : Nat} {labels : List String}
    (hnodup : labels.Nodup) (hdefined : ∀ label ∈ labels, s.defines label = true)
    (hbound : s.definitions.length ≤ bound + place)
    (hbound' : s'.definitions.length ≤ bound' + place)
    (h : s.Agrees s'
      (labels ++ s.lookups languages ((s.noteOrder bound place labels).flatMap s.notePoints))) :
    (∀ p,
      proceed ⟨languages, some s'⟩ ((s'.noteOrder bound' place labels).flatMap s'.notePoints) p =
        proceed ⟨languages, some s⟩ ((s.noteOrder bound place labels).flatMap s.notePoints) p) ∧
      ((∀ m ∈ (s.noteOrder bound place labels).flatMap s.notePoints,
          m.abort? ⟨languages, some s⟩ = none) →
        s'.noteOrder bound' place labels = s.noteOrder bound place labels) := by
  -- The two lists go on together, from labels that have all been looked up.
  induction bound generalizing bound' place labels with
  | zero =>
      have hle := s.length_le_of_defines hnodup hdefined
      have hlabel : labels[place]? = none := List.getElem?_eq_none_iff.2 (by omega)
      rw [s.noteOrder_of_none hlabel, s'.noteOrder_of_none hlabel]
      exact ⟨fun _ => rfl, fun _ => rfl⟩
  | succ bound ih =>
      cases hlabel : labels[place]? with
      | none =>
          rw [s.noteOrder_of_none hlabel, s'.noteOrder_of_none hlabel]
          exact ⟨fun _ => rfl, fun _ => rfl⟩
      | some label =>
          have hdefined' : ∀ l ∈ labels, s'.defines l = true := by
            intro l hl
            rw [defines, h.lookup l (List.mem_append_left _ hl)]
            exact hdefined l hl
          obtain ⟨rest, hrest, horder⟩ := exists_noteOrder_eq hnodup hdefined hbound hlabel
          obtain rfl : bound = rest := Nat.succ.inj hrest
          obtain ⟨bound', rfl, horder'⟩ := exists_noteOrder_eq hnodup hdefined' hbound' hlabel
          have hpoints : s'.notePoints label = s.notePoints label :=
            notePoints_eq (h.lookup label (List.mem_append_left _ (List.mem_of_getElem? hlabel)))
          rw [horder, List.flatMap_cons] at h
          rw [horder, horder', List.flatMap_cons, List.flatMap_cons, hpoints]
          have hfirst : s.Agrees s' (s.lookups languages (s.notePoints label)) := h.mono
            (List.subset_append_of_subset_right _ (lookups_subset_append _ _))
          have hlabels : numberedIn (some s') (s.notePoints label) = s'.noteLabels label := by
            rw [noteLabels, hpoints]
          have hle : s.definitions.length ≤ bound + (place + 1) := by omega
          have hle' : s'.definitions.length ≤ bound' + (place + 1) := by omega
          have hgrow := ih (nodup_addLabels hnodup (s.noteLabels label))
            (s.defines_of_mem_addLabels hdefined (s.notePoints label)) hle hle'
          refine ⟨fun p => proceed_append_congr (hfirst.proceed_eq p) fun q hq => ?_,
            fun hall => ?_⟩
          · obtain ⟨hsame, hagrees⟩ := h.after (forall_of_proceed hq)
            rw [← hlabels, hsame]
            exact (hgrow hagrees).1 q
          · obtain ⟨hsame, hagrees⟩ := h.after fun m hm => hall m (List.mem_append_left _ hm)
            rw [← hlabels, hsame]
            exact congrArg (label :: ·)
              ((hgrow hagrees).2 fun m hm => hall m (List.mem_append_right _ hm))

/-! ### Whole documents -/

/-- The points of the body of a document. -/
def bodyPoints (root : Node) : List Point :=
  .beginning root :: (root.points false ++ [.blanks root])

theorem documentPoints_eq (root : Node) : s.documentPoints root =
    bodyPoints root ++ ((s.notes root).flatMap s.notePoints ++ [.listed, .joined [root]]) := by
  simp [documentPoints, bodyPoints]

theorem numberedIn_bodyPoints (root : Node) :
    numberedIn (some s) (bodyPoints root) = numberedIn (some s) (root.points false) := by
  have hbegan : Point.numbered? (some s) (.beginning root) = none := rfl
  have hblanks : numberedIn (some s) [.blanks root] = [] := rfl
  rw [bodyPoints, numberedIn, List.filterMap_cons_none hbegan, ← numberedIn, numberedIn_append,
    hblanks, List.append_nil]

/-- Scopes that agree on what is looked up make the same run over a document. -/
theorem Agrees.documentPoints_eq {root : Node}
    (h : s.Agrees s' (s.lookups languages (s.documentPoints root))) :
    (∀ p, proceed ⟨languages, some s'⟩ (s'.documentPoints root) p =
        proceed ⟨languages, some s⟩ (s.documentPoints root) p) ∧
      ((∀ m ∈ s.documentPoints root, m.abort? ⟨languages, some s⟩ = none) →
        s'.notes root = s.notes root) := by
  rw [s.documentPoints_eq] at h
  rw [s.documentPoints_eq, s'.documentPoints_eq]
  have hbody : s.Agrees s' (s.lookups languages (bodyPoints root)) :=
    h.mono (lookups_subset_append _ _)
  -- If the body ends nothing, the list of footnotes begins with the same labels.
  have hnotes : (∀ m ∈ bodyPoints root, m.abort? ⟨languages, some s⟩ = none) →
      (∀ p, proceed ⟨languages, some s'⟩ ((s'.notes root).flatMap s'.notePoints) p =
          proceed ⟨languages, some s⟩ ((s.notes root).flatMap s.notePoints) p) ∧
        ((∀ m ∈ (s.notes root).flatMap s.notePoints, m.abort? ⟨languages, some s⟩ = none) →
          s'.notes root = s.notes root) := by
    intro hnone
    obtain ⟨hlabels, hagrees⟩ := Agrees.after hnone (h : s.Agrees s' ([] ++ _))
    rw [numberedIn_bodyPoints, numberedIn_bodyPoints] at hlabels
    rw [numberedIn_bodyPoints] at hagrees
    rw [notes, notes, hlabels]
    refine Agrees.noteOrder_eq (nodup_addLabels List.nodup_nil _)
      (s.defines_of_mem_addLabels (List.forall_mem_nil _) _) (Nat.le_refl _) (Nat.le_refl _)
      (hagrees.mono ?_)
    exact List.append_subset.2 ⟨List.subset_append_left _ _,
      List.subset_append_of_subset_right _ (lookups_subset_append _ _)⟩
  refine ⟨fun p => proceed_append_congr (hbody.proceed_eq p) fun q hq => ?_, fun hall => ?_⟩
  · have hnone := forall_of_proceed hq
    rw [lookups_append hnone] at h
    refine proceed_append_congr ((hnotes hnone).1 q) fun q' hq' => ?_
    rw [lookups_append (forall_of_proceed hq')] at h
    have hend : s.Agrees s' (s.lookups languages [.listed, .joined [root]]) := h.mono
      (List.subset_append_of_subset_right _ (List.subset_append_right _ _))
    exact hend.proceed_eq q'
  · exact (hnotes fun m hm => hall m (List.mem_append_left _ hm)).2
      fun m hm => hall m (List.mem_append_right _ (List.mem_append_left _ hm))

end Scope

/-! ### Pieces -/

namespace Scope

variable {s s' : Scope} {languages : Bool} {root : Node}

/-- What a pass with a scope knows. -/
def environment (s : Scope) (o : Options) : Environment :=
  { options := o, scope? := some s }

/-- The labels of the list of footnotes have been looked up, if nothing ends the pass. -/
theorem notes_subset_lookups
    (hnone : ∀ m ∈ s.documentPoints root, m.abort? ⟨languages, some s⟩ = none) :
    s.notes root ⊆ s.lookups languages (s.documentPoints root) := by
  intro label hl
  rw [s.notes_eq, ← s.numberedIn_documentPoints, numberedIn_of_forall hnone] at hl
  rw [lookups_eq hnone]
  rcases mem_addLabels.1 hl with hl | hl
  · cases hl
  · exact hl

/-- Scopes that agree on what is looked up make the same pieces. -/
theorem Agrees.documentPieces_eq (o : Options) (trim : List Piece → List Piece)
    (hnone : ∀ m ∈ s.documentPoints root, m.abort? ⟨languages, some s⟩ = none)
    (h : s.Agrees s' (s.lookups languages (s.documentPoints root))) :
    documentPieces (s'.environment o) trim s' root =
      documentPieces (s.environment o) trim s root := by
  have hlevel : writtenLevel (s'.environment o).scope? = writtenLevel (s.environment o).scope? :=
    funext h.writtenLevel_eq
  have hnotes : ∀ label ∈ s.notes root, notePieces (s'.environment o) trim s' label =
      notePieces (s.environment o) trim s label := by
    intro label hl
    have hlist : ∀ ns, listPieces (s'.environment o) trim false ns =
        listPieces (s.environment o) trim false ns :=
      fun ns => (pieces_agree hlevel).holds_nodes ns false (.of_eq rfl)
    rw [notePieces, notePieces, h.lookup label (notes_subset_lookups hnone hl)]
    simp only [hlist]
  have hsection : sectionPieces (s'.environment o) trim s' (s.notes root) =
      sectionPieces (s.environment o) trim s (s.notes root) :=
    sectionPieces_congr (fun _ => rfl) hnotes
  rw [documentPieces, documentPieces, (pieces_agree hlevel).holds root false (.of_eq rfl),
    h.documentPoints_eq.2 hnone, hsection]

/-- **Scopes that agree on what is looked up make the same pass** over a document: it ends in the
same way, gives the same numbers and leaves the same record. -/
theorem Agrees.document_run_eq (o : Options)
    (h : s.Agrees s' (s.lookups o.codeLanguage (s.documentPoints root))) :
    (wholePass (s'.environment o) root).runFrom {} =
      (wholePass (s.environment o) root).runFrom {} := by
  have ht : Trims (s.environment o) trimPieces := trims_trimPieces o _
  have ht' : Trims (s'.environment o) trimPieces := trims_trimPieces o _
  have hsame := h.documentPoints_eq.1 {}
  rcases hproceed : proceed ⟨o.codeLanguage, some s⟩ (s.documentPoints root) {} with ⟨e | e, q⟩
  · have hnone := forall_of_proceed hproceed
    rw [(document_run_of_none ht rfl hproceed).2,
      (document_run_of_none ht' rfl (hsame.trans hproceed)).2, h.documentPoints_eq.2 hnone,
      h.documentPieces_eq o trimPieces hnone]
  · rw [document_run_of_abort ht rfl hproceed,
      document_run_of_abort ht' rfl (hsame.trans hproceed)]

end Scope

/-- A pass that succeeds looks up the labels of all references that it visits. -/
theorem lookedUp_eq_citedBy {o : Options} {root : Node} {text : String}
    (h : (renderDocument o root).1 = .ok text) : lookedUp o root = citedBy root :=
  Scope.lookups_eq (abort?_of_renderDocument_ok h)

end ForumMarkup
