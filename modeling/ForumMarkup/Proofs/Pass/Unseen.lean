import ForumMarkup.Proofs.Document.Change
import ForumMarkup.Proofs.Pass.Recast
/-
**Changes that a pass does not see.**

A change of single nodes is not seen by a pass if the parts of the changed node run the same, and if
the look at the whole document beforehand finds the same headlines and definitions.  Such a change
is not seen anywhere in a document either: in the body, in titles and terms, and in the definitions
that the pass writes after the body.

Main definitions:

* `ForumMarkup.Unseen` — two nodes whose parts run the same in every environment;
* `ForumMarkup.isLandmark` — the kinds that the look at the whole document is for.

Main results:

* `ForumMarkup.Unseen.of_somewhere` — **a change that is not seen at a node is not seen above it**;
* `ForumMarkup.topLevelOf_landmarks`, `ForumMarkup.collect_landmarks` — what a pass knows of its
  document depends on the landmarks;
* `ForumMarkup.UnseenChange.renderDocument` — **a pass does not see the change in a document**.
-/

set_option autoImplicit false

namespace ForumMarkup

/-! ### Nodes whose parts run the same -/

/-- The parts of two nodes run the same in every environment. -/
structure Unseen (lenient : Prop) (n n' : Node) : Prop where
  kind : n'.kind = n.kind
  value : ∀ name, isPassageName name = false →
    Node.valueIn? name n'.properties = Node.valueIn? name n.properties
  passages : ∀ env name, isPassageName name = true →
    SameRun lenient (passage env name n.properties) (passage env name n'.properties)
  below : ∀ env descriptive, (descriptive = true → n.kind = .plainList) →
    SameRun lenient (listText env descriptive n.children) (listText env descriptive n'.children)
  isEmpty : n.kind = .footnoteReference → n'.children.isEmpty = n.children.isEmpty

variable {lenient : Prop}

theorem Unseen.refl (n : Node) : Unseen lenient n n :=
  { kind := rfl
    value := fun _ _ => rfl
    passages := fun _ _ _ => .refl _
    below := fun _ _ _ => .refl _
    isEmpty := fun _ => rfl }

theorem Unseen.resembles {n n' : Node} (h : Unseen lenient n n') (env : Environment) :
    Resembles lenient env env n n' := by
  refine
    { kind := h.kind
      value := fun name _ htitle htag => h.value name (by simp [isPassageName, htitle, htag])
      level := fun _ => ?_
      passages := h.passages env
      below := h.below env
      isEmpty := h.isEmpty }
  rw [headlineLevel, headlineLevel, h.value "level" rfl]

/-- One node of a list may be exchanged. -/
theorem Unseen.listText_between {c c' : Node} (h : Unseen lenient c c') (env : Environment)
    (descriptive : Bool) (before after : List Node) :
    SameRun lenient (listText env descriptive (before ++ c :: after))
      (listText env descriptive (before ++ c' :: after)) := by
  have hc : Resembles lenient env env c c' := h.resembles env
  induction before with
  | nil => exact sameRun_cons (hc.entry (.refl env) descriptive) hc.withBlanks_eq (.refl _)
  | cons n before ih => exact sameRun_cons (.refl _) rfl ih

/-- A passage may be exchanged for one whose text runs the same. -/
theorem Unseen.passage_between {ns ns' : List Node}
    (h : ∀ env, SameRun lenient (listText env false ns) (listText env false ns')) {kind : Kind}
    {front back : List (String × Property)} {name : String} {cs : List Node} :
    Unseen lenient (.mk kind (front ++ (name, .nodes ns) :: back) cs)
      (.mk kind (front ++ (name, .nodes ns') :: back) cs) where
  kind := rfl
  value sought _ := valueIn?_between sought name front back _ _
  passages env sought _ := by
    rw [Node.properties, Node.properties, passage_eq, passage_eq]
    rcases lookupEntry_between sought name front back with ⟨-, hfound⟩ | hother
    · rw [hfound, hfound]
      exact h env
    · rw [hother, hother]
      exact .refl _
  below _ _ _ := .refl _
  isEmpty _ := rfl

/-- **A change that is not seen at a node is not seen above it.** -/
theorem Unseen.of_somewhere {change : Node → Node → Prop}
    (hchange : ∀ {n n'}, change n n' → Unseen lenient n n') {n n' : Node}
    (h : Somewhere change n n') : Unseen lenient n n' := by
  induction h with
  | here h => exact hchange h
  | @child kind ps before after c c' _ ih =>
      exact
        { kind := rfl
          value := fun _ _ => rfl
          passages := fun _ _ _ => .refl _
          below := fun env descriptive _ => ih.listText_between env descriptive before after
          isEmpty := fun _ => by cases before <;> rfl }
  | passage _ ih => exact .passage_between fun env => ih.listText_between env false _ _

/-! ### Landmarks -/

/-- The kinds of the nodes that the look at a whole document is for. -/
def isLandmark : Kind → Bool
  | .headline => true
  | .footnoteDefinition => true
  | _ => false

theorem Unseen.levelOf?_eq {n n' : Node} (h : Unseen lenient n n') :
    levelOf? n' = levelOf? n := by
  rw [levelOf?, levelOf?, h.kind, Node.value?, Node.value?, h.value "level" rfl]

theorem Unseen.definedLabel?_eq {n n' : Node} (h : Unseen lenient n n') :
    FootnoteTable.definedLabel? n' = FootnoteTable.definedLabel? n := by
  rw [FootnoteTable.definedLabel?, FootnoteTable.definedLabel?, h.kind, Node.value?, Node.value?,
    h.value "label" rfl]

theorem Unseen.labelShowable_eq {n n' : Node} (h : Unseen lenient n n') :
    FootnoteTable.labelShowable n' = FootnoteTable.labelShowable n := by
  rw [FootnoteTable.labelShowable, FootnoteTable.labelShowable, h.kind, Node.value?, Node.value?,
    h.value "label" rfl]

theorem topLevelOf_landmarks (n : Node) :
    topLevelOf n.preorder = topLevelOf (n.ofKinds isLandmark) := by
  have hlevels : (n.ofKinds isLandmark).filterMap levelOf? = n.preorder.filterMap levelOf? := by
    rw [Node.ofKinds, List.filterMap_filter]
    refine List.filterMap_congr fun m _ => ?_
    split
    · rfl
    · rename_i hkind
      have hne : m.kind ≠ .headline := fun e => hkind (by rw [e]; rfl)
      rw [levelOf?, if_neg hne]
  rw [topLevelOf, topLevelOf, hlevels]

theorem collect_landmarks (n : Node) :
    FootnoteTable.collect n.preorder = FootnoteTable.collect (n.ofKinds isLandmark) := by
  rw [FootnoteTable.collect, FootnoteTable.collect, Node.ofKinds, List.foldl_filter]
  congr 1
  funext definitions m
  split
  · rfl
  · rename_i hkind
    have hne : m.kind ≠ .footnoteDefinition := fun e => hkind (by rw [e]; rfl)
    simp [FootnoteTable.addDefinition, FootnoteTable.definedLabel?, hne]

theorem canCollect_landmarks (n : Node) :
    FootnoteTable.canCollect n.preorder = FootnoteTable.canCollect (n.ofKinds isLandmark) := by
  rw [FootnoteTable.canCollect, FootnoteTable.canCollect, Node.ofKinds, List.all_filter]
  congr 1
  funext m
  by_cases hkind : m.kind = .footnoteDefinition
  · simp [hkind, isLandmark]
  · simp [FootnoteTable.labelShowable, hkind]

/-- Tables of which each entry has the label of the other one and a related definition. -/
def RelatedTables (R : Node → Node → Prop) : List (String × Node) → List (String × Node) → Prop :=
  List.Forall₂ fun e e' => e'.1 = e.1 ∧ R e.2 e'.2

section

variable {R R' : Node → Node → Prop} {definitions definitions' : List (String × Node)}

theorem RelatedTables.imp (hR : ∀ {d d'}, R d d' → R' d d')
    (h : RelatedTables R definitions definitions') : RelatedTables R' definitions definitions' :=
  List.Forall₂.imp (fun _ _ he => ⟨he.1, hR he.2⟩) h

theorem RelatedTables.lookup (h : RelatedTables R definitions definitions') (label : String) :
    Option.Rel R (lookupEntry label definitions) (lookupEntry label definitions') := by
  induction h with
  | nil => exact .none
  | @cons e e' rest rest' he _ ih =>
      obtain ⟨k, d⟩ := e
      obtain ⟨k', d'⟩ := e'
      obtain ⟨rfl, hd⟩ : k' = k ∧ R d d' := he
      rw [lookupEntry, lookupEntry]
      split
      · exact .some hd
      · exact ih

theorem RelatedTables.isSome_lookup (h : RelatedTables R definitions definitions')
    (label : String) :
    (lookupEntry label definitions').isSome = (lookupEntry label definitions).isSome := by
  have hlookup := h.lookup label
  generalize lookupEntry label definitions = d, lookupEntry label definitions' = d' at hlookup ⊢
  cases hlookup <;> rfl

theorem RelatedTables.collect {ns ns' : List Node}
    (hlabel : ∀ {n n'}, R n n' → FootnoteTable.definedLabel? n' = FootnoteTable.definedLabel? n)
    (h : List.Forall₂ R ns ns') :
    RelatedTables R (FootnoteTable.collect ns) (FootnoteTable.collect ns') := by
  -- The fold starts from any related tables, because it has some after the first node.
  refine List.rel_foldl (P := RelatedTables R) ?_ .nil h
  intro definitions definitions' htables n n' hn
  rw [FootnoteTable.addDefinition, FootnoteTable.addDefinition, hlabel hn]
  cases FootnoteTable.definedLabel? n with
  | none => exact htables
  | some label =>
      dsimp only
      rw [htables.isSome_lookup]
      split
      · exact htables
      · exact List.rel_append htables (.cons ⟨rfl, hn⟩ .nil)

end

/-! ### Documents -/

/-- A change of single nodes that a pass does not see. -/
structure UnseenChange (lenient : Prop) (change : Node → Node → Prop) : Prop where
  unseen : ∀ {n n'}, change n n' → Unseen lenient n n'
  landmarks : ∀ {n n'}, change n n' →
    n'.held.flatMap (Node.ofKinds isLandmark) = n.held.flatMap (Node.ofKinds isLandmark)

section

variable {change : Node → Node → Prop} (hchange : UnseenChange lenient change) {root root' : Node}
  (h : Somewhere change root root')

include hchange

theorem UnseenChange.keepsKinds : KeepsKinds isLandmark change :=
  ⟨fun h => (hchange.unseen h).kind, hchange.landmarks⟩

include h

/-- The landmarks of the two documents correspond one by one. -/
theorem UnseenChange.forall₂_landmarks :
    List.Forall₂ (Unseen lenient) (root.ofKinds isLandmark) (root'.ofKinds isLandmark) := by
  refine (h.forall₂_ofKinds hchange.keepsKinds).imp fun n n' hn => ?_
  rcases hn with _ | hn
  · exact .refl n
  · exact .of_somewhere hchange.unseen hn

theorem UnseenChange.topLevel_eq :
    (Scope.ofDocument root').topLevel = (Scope.ofDocument root).topLevel := by
  have hlevels : List.Forall₂ Eq ((root.ofKinds isLandmark).filterMap levelOf?)
      ((root'.ofKinds isLandmark).filterMap levelOf?) := by
    refine List.rel_filterMap (fun n n' hn => ?_) (hchange.forall₂_landmarks h)
    rw [hn.levelOf?_eq]
    cases levelOf? n with
    | none => exact .none
    | some level => exact .some rfl
  rw [List.forall₂_eq_eq_eq] at hlevels
  change topLevelOf root'.preorder = topLevelOf root.preorder
  rw [topLevelOf_landmarks, topLevelOf_landmarks, topLevelOf, topLevelOf, hlevels]

theorem UnseenChange.definitions_related :
    RelatedTables (Unseen lenient) (Scope.ofDocument root).definitions
      (Scope.ofDocument root').definitions := by
  change RelatedTables _ (FootnoteTable.collect root.preorder)
    (FootnoteTable.collect root'.preorder)
  rw [collect_landmarks, collect_landmarks]
  exact .collect Unseen.definedLabel?_eq (hchange.forall₂_landmarks h)

theorem UnseenChange.matches (o : Options) :
    (passEnvironment o root).Matches (passEnvironment o root') :=
  ⟨rfl, rfl, rfl, fun label =>
    footnoteNumber_eq rfl rfl ((hchange.definitions_related h).isSome_lookup label)⟩

theorem UnseenChange.headlineLevel_eq (o : Options) :
    headlineLevel (passEnvironment o root') = headlineLevel (passEnvironment o root) := by
  funext ps
  simp only [headlineLevel, Environment.scope, passEnvironment, pure_bind, Scope.relativeLevel,
    hchange.topLevel_eq h]

theorem UnseenChange.canCollect_eq :
    FootnoteTable.canCollect root'.preorder = FootnoteTable.canCollect root.preorder := by
  have hshowable : List.Forall₂ Eq ((root.ofKinds isLandmark).map FootnoteTable.labelShowable)
      ((root'.ofKinds isLandmark).map FootnoteTable.labelShowable) :=
    List.rel_map (fun _ _ hn => hn.labelShowable_eq.symm) (hchange.forall₂_landmarks h)
  rw [List.forall₂_eq_eq_eq] at hshowable
  rw [canCollect_landmarks, canCollect_landmarks]
  simpa [FootnoteTable.canCollect, List.all_map, Function.comp_def] using
    congrArg (List.all · id) hshowable.symm

/-- The whole pass runs the same. -/
theorem UnseenChange.wholePass (o : Options) :
    SameRun lenient (wholePass (passEnvironment o root) root)
      (ForumMarkup.wholePass (passEnvironment o root') root') := by
  have henv := hchange.matches h o
  have hself := recast_self henv (hchange.headlineLevel_eq h o)
  have hnotes : SameRun lenient (footnoteSection (passEnvironment o root))
      (footnoteSection (passEnvironment o root')) := by
    have hrelated := hchange.definitions_related h
    refine footnoteSection_sameRun rfl rfl henv (List.Forall₂.length_eq hrelated).symm
      (hrelated.imp fun {d d'} hd => ?_).lookup
    rw [(hself d').below false]
    exact hd.below _ false nofun
  -- The change is made in the environment of the document before it, and then that is exchanged.
  have hroot := (Unseen.of_somewhere hchange.unseen h).resembles (passEnvironment o root)
  have hroot' := (hself root').resembles lenient
  rw [ForumMarkup.wholePass, ForumMarkup.wholePass, hchange.canCollect_eq h]
  exact .bind_left _ fun _ =>
    (hroot.document (.refl _) (.refl _)).trans (hroot'.document henv hnotes)

/-- **A pass does not see the change in a document.** -/
theorem UnseenChange.renderDocument (o : Options) :
    (renderDocument o root').1 = (ForumMarkup.renderDocument o root).1 ∨
      lenient ∧ (ForumMarkup.renderDocument o root).1 = .error (.misfit .notText) ∧
        ∃ e, (ForumMarkup.renderDocument o root').1 = .error e := by
  rw [renderDocument_eq, renderDocument_eq]
  exact (hchange.wholePass h o {}).imp_left fun heq => by rw [heq]

end

end ForumMarkup
