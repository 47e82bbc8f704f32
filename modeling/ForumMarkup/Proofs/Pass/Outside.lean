import ForumMarkup.Proofs.Pass.Refusal
import ForumMarkup.Proofs.Pass.Resemblance
/-
**Transcoding outside a pass.**

Only two kinds of nodes need to know the document around them: a headline, whose level counts from
the least one, and a footnote reference, whose number comes from the table of the pass.  Everything
else is transcoded outside a pass as it is in one.  So a fold outside a pass goes along with the
fold of a pass up to the first node that needs it; if it comes to none, it yields what the pass
yields, and neither the document nor the place of the tree in it makes a difference.

The exception is an item of a descriptive list: it has its term in front of its contents there and
nowhere else.  And a pass does not begin if there is a definition whose label cannot be shown, while
outside a pass nobody asks for that label.

Main definitions:

* `ForumMarkup.UnlessAsked` — a computation runs as another one does, unless that one asks for a
  pass;
* `ForumMarkup.Node.asks`, `ForumMarkup.Point.asks` — the nodes that need a pass, and the points at
  which the fold comes to them;
* `ForumMarkup.placed` — a node at its place in a tree;
* `ForumMarkup.OutsidePass` — what transcoding outside a pass has to do with a pass.

Main results:

* `ForumMarkup.unlessAsked_fold` — **outside a pass the fold runs as in a pass**, unless it asks for
  one;
* `ForumMarkup.failsAlike_points` — where it asks for one, and how it fails otherwise;
* `ForumMarkup.transcode_outside` — **transcoding outside a pass yields what a pass yields, or fails
  as it does, or asks for a pass**; what asks for nothing is the same everywhere.
-/

set_option autoImplicit false

namespace ForumMarkup

/-! ### Running with and without a pass -/

/-- The second computation runs as the first one does, unless the first one asks for a pass. -/
def UnlessAsked {α : Type} (m m' : PassM α) : Prop :=
  ∀ p, (m.runFrom p).1 = .error .noPass ∨ m'.runFrom p = m.runFrom p

namespace UnlessAsked

variable {α β : Type} {m m' : PassM α}

theorem refl (m : PassM α) : UnlessAsked m m :=
  fun _ => .inr rfl

theorem bind {f f' : α → PassM β} (h : UnlessAsked m m') (hf : ∀ a, UnlessAsked (f a) (f' a)) :
    UnlessAsked (m >>= f) (m' >>= f') := by
  intro p
  rcases h p with hasked | heq
  · exact .inl (SameRun.fst_bind_error hasked)
  · rcases hrun : m.runFrom p with ⟨e | a, q⟩
    · rw [PassM.runFrom_bind_error hrun, PassM.runFrom_bind_error (heq.trans hrun)]
      exact .inr rfl
    · rw [PassM.runFrom_bind_ok hrun, PassM.runFrom_bind_ok (heq.trans hrun)]
      exact hf a q

theorem bind_left (m : PassM α) {f f' : α → PassM β} (hf : ∀ a, UnlessAsked (f a) (f' a)) :
    UnlessAsked (m >>= f) (m >>= f') :=
  (refl m).bind hf

theorem bind_right (h : UnlessAsked m m') (f : α → PassM β) :
    UnlessAsked (m >>= f) (m' >>= f) :=
  h.bind fun a => refl (f a)

end UnlessAsked

/-- The same environment outside a pass. -/
def Environment.outside (env : Environment) : Environment :=
  { env with scope? := none }

section

variable (env : Environment)

theorem headlineLevel_unlessAsked (ps : List (String × Property)) :
    UnlessAsked (headlineLevel env.outside ps) (headlineLevel env ps) := by
  intro p
  unfold headlineLevel
  -- Only an integer is counted, and that needs the least level.
  split
  · exact .inl rfl
  · exact .inr rfl

theorem referenceMarkup_unlessAsked (ps : List (String × Property)) (cs : List Node) :
    UnlessAsked (referenceMarkup env.outside ps cs) (referenceMarkup env ps cs) := by
  intro p
  unfold referenceMarkup
  cases isInlineFootnote ps cs with
  | true => exact .inr rfl
  | false => exact .inl rfl

theorem dress_outside : dress env.outside = dress env := by
  funext kind term s
  cases kind <;> rfl

theorem formatList_outside : formatList env.outside = formatList env := rfl

/-- **Outside a pass the fold runs as in a pass**, unless it asks for one. -/
theorem unlessAsked_fold : TreeCases
    (fun n => ∀ descriptive,
      UnlessAsked (entry env.outside descriptive n) (entry env descriptive n))
    (fun ns => ∀ descriptive,
      UnlessAsked (entries env.outside descriptive ns) (entries env descriptive ns))
    (fun ps => ∀ name, UnlessAsked (passage env.outside name ps) (passage env name ps)) where
  node kind ps cs hps hcs := by
    intro descriptive
    have hcontents : UnlessAsked (fragments env.outside cs >>= joined)
        (fragments env cs >>= joined) := by
      rw [fragments_eq, fragments_eq]
      exact (hcs false).bind_right joined
    rw [entry, entry, dress_outside]
    split
    · exact (hps "tag").bind fun tag => hcontents.bind_right _
    cases hrole : kind.role with
    | container =>
        rw [visit_container _ ps cs hrole, visit_container _ ps cs hrole, dress_outside]
        exact hcontents.bind_right _
    | leaf =>
        rw [visit_leaf _ ps cs hrole, visit_leaf _ ps cs hrole]
        exact .refl _
    | codeBlock =>
        rw [visit_codeBlock _ ps cs hrole, visit_codeBlock _ ps cs hrole]
        exact .refl _
    | headline =>
        obtain rfl := Kind.eq_headline hrole
        rw [visit_headline, visit_headline]
        split
        · exact .refl _
        · exact (headlineLevel_unlessAsked env ps).bind fun level => (hps "title").bind fun title =>
            .bind_left _ fun line => hcontents.bind_right _
    | list =>
        obtain rfl := Kind.eq_plainList hrole
        rw [visit_plainList, visit_plainList, formatList_outside]
        refine .bind_left _ fun type => ?_
        rw [items_eq, items_eq]
        exact ((hcs _).bind_right joined).bind_right _
    | link =>
        obtain rfl := Kind.eq_link hrole
        rw [visit_link, visit_link]
        exact .bind_left _ fun parts => hcontents.bind_right _
    | reference =>
        obtain rfl := Kind.eq_footnoteReference hrole
        rw [visit_footnoteReference, visit_footnoteReference]
        exact (referenceMarkup_unlessAsked env ps cs).bind_right _
    | refused =>
        rw [visit_refused _ ps cs hrole, visit_refused _ ps cs hrole]
        exact .refl _
  nil := fun _ => .refl _
  cons n ns hn hns := by
    intro descriptive
    rw [entries, entries]
    exact (hn descriptive).bind fun f => .bind_left _ fun f' => (hns descriptive).bind_right _
  bare := fun _ => .refl _
  value name v ps hps := by
    intro sought
    rw [passage, passage]
    split
    · exact .refl _
    · exact hps sought
  nodes name ns ps hns hps := by
    intro sought
    rw [passage, passage, fragments_eq, fragments_eq]
    split
    · exact (hns false).bind_right joined
    · exact hps sought

end

/-! ### Where the fold asks for a pass -/

/-- Whether a node needs a pass: a headline that is not left out and whose level is counted, and a
footnote reference that does not carry its definition itself. -/
def Node.asks : Node → Bool
  | .mk kind ps cs =>
    match kind.role with
    | .headline => !isSuppressed ps && countsLevel ps
    | .reference => !isInlineFootnote ps cs
    | _ => false

/-- Whether the fold comes to a node that needs a pass at a point. -/
def Point.asks : Point → Bool
  | .level n => n.asks
  | .construct n => n.asks
  | _ => false

/-- How a point ends a computation outside a pass, told by how it ends a pass. -/
def Scope.abortOutside? (s : Scope) (languages : Bool) (m : Point) : Option Abort :=
  if m.asks then some .noPass else m.abort? ⟨languages, some s⟩

variable {s : Scope} {languages : Bool}

/-- Outside a pass, points are run through until one asks for a pass or would end it. -/
def FailsAlike (s : Scope) (languages : Bool) (ms : List Point) : Prop :=
  ms.findSome? (Point.abort? ⟨languages, none⟩) = ms.findSome? (s.abortOutside? languages)

namespace FailsAlike

variable {ms ms' : List Point}

theorem nil : FailsAlike s languages [] := rfl

theorem append (h : FailsAlike s languages ms) (h' : FailsAlike s languages ms') :
    FailsAlike s languages (ms ++ ms') := by
  unfold FailsAlike at *
  rw [List.findSome?_append, List.findSome?_append, h, h']

theorem single {m : Point} (h : m.abort? ⟨languages, none⟩ = s.abortOutside? languages m) :
    FailsAlike s languages [m] := by
  unfold FailsAlike
  rw [List.findSome?_cons, List.findSome?_cons, h]
  rfl

theorem cons {m : Point} (h : m.abort? ⟨languages, none⟩ = s.abortOutside? languages m)
    (h' : FailsAlike s languages ms) : FailsAlike s languages (m :: ms) :=
  (single h).append h'

theorem joined (ns : List Node) : FailsAlike s languages [.joined ns] :=
  single rfl

/-- What comes after a point that ends both does not matter. -/
theorem of_abort {m : Point} (e : Abort) (ms : List Point) (h : m.abort? ⟨languages, none⟩ = some e)
    (h' : s.abortOutside? languages m = some e) : FailsAlike s languages (m :: ms) := by
  unfold FailsAlike
  rw [List.findSome?_cons, List.findSome?_cons, h, h']

end FailsAlike

/-- A level that is not counted is written as it is. -/
theorem writtenLevel_of_not_counts {ps : List (String × Property)} (h : countsLevel ps = false)
    (scope? : Option Scope) :
    writtenLevel scope? ps = (Node.valueIn? "level" ps).getD (.int 1) := by
  unfold countsLevel at h
  unfold writtenLevel
  cases hlevel : (Node.valueIn? "level" ps).getD (.int 1) with
  | int n => simp [hlevel] at h
  | _ => rfl

/-- The checks of a node by itself need no pass, unless the node does. -/
theorem abort?_construct_outside {kind : Kind} (ps : List (String × Property)) (cs : List Node)
    (h : kind.role ≠ .headline) :
    Point.abort? ⟨languages, none⟩ (.construct (.mk kind ps cs)) =
      s.abortOutside? languages (.construct (.mk kind ps cs)) := by
  simp only [Scope.abortOutside?, Point.asks, Node.asks, Point.abort?, constructAbort?]
  cases hrole : kind.role with
  | headline => exact absurd hrole h
  | reference => cases isInlineFootnote ps cs <;> simp
  | _ => simp

/-- The fold asks for a pass at the first node that needs one, if nothing fails before; and it fails
otherwise where a pass would fail. -/
theorem failsAlike_points (s : Scope) (languages : Bool) : TreeCases
    (fun n => ∀ inList, FailsAlike s languages (n.points inList))
    (fun ns => ∀ inList, FailsAlike s languages (listPoints inList ns))
    (fun ps => ∀ name, FailsAlike s languages (passagePoints name ps)) where
  node kind ps cs hps hcs := by
    intro inList
    rw [Node.points]
    cases hrole : kind.role with
    | container =>
        refine .cons (abort?_construct_outside ps cs (by simp [hrole])) (.append ?_
          ((hcs false).append (.joined cs)))
        split
        · exact hps "tag"
        · exact .nil
    | headline =>
        cases hsuppressed : isSuppressed ps with
        | true =>
            refine .single ?_
            simp [Scope.abortOutside?, Point.asks, Node.asks, Point.abort?, constructAbort?, hrole,
              hsuppressed]
        | false =>
            dsimp only
            rw [if_neg Bool.false_ne_true]
            cases hcounts : countsLevel ps with
            -- A level that is counted asks before anything below the headline is looked at.
            | true =>
                refine .of_abort .noPass _ ?_ ?_
                · simp [Point.abort?, Node.properties, hcounts]
                · simp [Scope.abortOutside?, Point.asks, Node.asks, hrole, hsuppressed, hcounts]
            | false =>
                have hwritten : writtenLevel none ps = writtenLevel (some s) ps :=
                  (writtenLevel_of_not_counts hcounts none).trans
                    (writtenLevel_of_not_counts hcounts (some s)).symm
                refine .cons ?_ ((hps "title").append (.cons ?_ ((hcs false).append (.joined cs))))
                · simp [Scope.abortOutside?, Point.asks, Node.asks, hrole, Point.abort?,
                    Node.properties, hcounts]
                · simp [Scope.abortOutside?, Point.asks, Node.asks, hrole, hcounts, Point.abort?,
                    constructAbort?, hsuppressed, hwritten]
    | list =>
        exact .cons (abort?_construct_outside ps cs (by simp [hrole]))
          ((hcs (isDescriptive ps)).append (.joined cs))
    | link =>
        exact .cons rfl (((hcs false).append (.joined cs)).append
          (.single (abort?_construct_outside ps cs (by simp [hrole]))))
    | _ => exact .single (abort?_construct_outside ps cs (by simp [hrole]))
  nil := fun _ => .nil
  cons n ns hn hns := fun inList => (hn inList).append (.cons rfl (hns inList))
  bare := fun _ => .nil
  value name v ps hps := by
    intro sought
    rw [passagePoints]
    split
    · exact .single rfl
    · exact hps sought
  nodes name ns ps hns hps := by
    intro sought
    rw [passagePoints]
    split
    · exact (hns false).append (.joined ns)
    · exact hps sought

/-! ### A node at its place -/

/-- A node at its place in a tree, with the blanks after it: a child of a descriptive list, or any
other node. -/
def placed (env : Environment) (descriptive : Bool) (n : Node) : PassM Fragment := do
  withBlanks n (← entry env descriptive n)

/-- The points of a node with the blanks after it. -/
def Node.placedPoints (descriptive : Bool) (n : Node) : List Point :=
  n.points descriptive ++ [.blanks n]

/-- Lists of nodes are transcoded node by node, each at its place. -/
theorem entries_cons_eq (env : Environment) (descriptive : Bool) (n : Node) (ns : List Node) :
    entries env descriptive (n :: ns) = do
      let f ← placed env descriptive n
      return f :: (← entries env descriptive ns) := by
  simp only [entries, placed, bind_assoc]

theorem placed_false (env : Environment) (n : Node) : placed env false n = transcode env n := by
  rw [placed, entry_false, transcode]

/-- Only an item looks at whether the list that it stands in is a descriptive one. -/
theorem entry_of_not_item (env : Environment) {n : Node} (h : n.kind ≠ .item)
    (descriptive : Bool) : entry env descriptive n = visit env n := by
  obtain ⟨kind, ps, cs⟩ := n
  have hkind : kind ≠ .item := h
  simp [entry, hkind]

theorem placed_congr (env : Environment) {n : Node} {descriptive descriptive' : Bool}
    (h : n.kind = .item → descriptive' = descriptive) :
    placed env descriptive' n = placed env descriptive n := by
  by_cases hitem : n.kind = .item
  · rw [h hitem]
  · rw [placed, placed, entry_of_not_item env hitem, entry_of_not_item env hitem]

theorem placed_unlessAsked (env : Environment) (descriptive : Bool) (n : Node) :
    UnlessAsked (placed env.outside descriptive n) (placed env descriptive n) :=
  ((unlessAsked_fold env).holds n descriptive).bind_right _

theorem placed_follows {env : Environment} {trim : List Piece → List Piece} (ht : Trims env trim)
    (descriptive : Bool) (n : Node) (p : Progress) :
    Follows env.premises (placed env descriptive n) (n.placedPoints descriptive)
      (fun numbers => n.fragment numbers (n.pieces env trim descriptive ++ blankPieces n)) p :=
  (((fold_follows ht).holds n descriptive p).bind fun numbers _ _ =>
    Follows.of_settle rfl rfl (withBlanks_eq numbers n _)).congr fun _ => rfl

/-! ### Outside a pass -/

/-- Nothing is numbered outside a pass. -/
theorem numberedIn_none (ms : List Point) : numberedIn none ms = [] := by
  refine List.filterMap_eq_nil_iff.2 fun m _ => ?_
  cases m with
  | construct n =>
      obtain ⟨kind, ps, cs⟩ := n
      simp [Point.numbered?, Node.numbered?]
  | _ => rfl

theorem proceed_none_numbers {ms : List Point} {p q : Progress}
    (h : proceed ⟨languages, none⟩ ms p = (none, q)) : q.numbers = p.numbers := by
  rw [proceed_numbers h, numberedIn_none]
  rfl

namespace Follows

variable {α : Type} {m : PassM α} {points : List Point} {value : List String → α}
  (h : ∀ p, Follows ⟨languages, none⟩ m points value p)

theorem sound_none (p : Progress) : p.Sound none :=
  fun _ hs => nomatch hs

include h

/-- A computation that follows its points outside a pass fails with the first of them, whatever has
been numbered before. -/
theorem run_outside_some {e : Abort}
    (he : points.findSome? (Point.abort? ⟨languages, none⟩) = some e) (p : Progress) :
    (m.runFrom p).1 = .error e := by
  rcases hproceed : proceed ⟨languages, none⟩ points p with ⟨e?, q⟩
  have hfirst : (proceed ⟨languages, none⟩ points p).1 =
      points.findSome? (Point.abort? ⟨languages, none⟩) := proceed_fst points p
  rw [hproceed, he] at hfirst
  obtain rfl : e? = some e := hfirst
  rw [(h p).run_of_some (sound_none p) hproceed]

/-- If no point fails, it has one value, whatever has been numbered before, and it numbers nothing
itself. -/
theorem run_outside_none (hnone : points.findSome? (Point.abort? ⟨languages, none⟩) = none)
    (p : Progress) :
    (m.runFrom p).1 = .ok (value []) ∧ (m.runFrom p).2.numbers = p.numbers := by
  have hends : ∀ p, ∃ q, proceed ⟨languages, none⟩ points p = (none, q) := fun p =>
    ⟨_, Prod.ext ((proceed_fst points p).trans hnone) rfl⟩
  obtain ⟨q, hq⟩ := hends p
  obtain ⟨q', hq'⟩ := hends {}
  have hnumbers : q'.numbers = [] := proceed_none_numbers hq'
  -- From the empty progress the value is known for all numbers, so it is the same for all.
  have hall : ∀ numbers, m.runFrom {} = (.ok (value numbers), q') := fun numbers =>
    (h {}).run_of_none (sound_none {}) hq' (hnumbers ▸ List.nil_prefix)
  have hvalue : value p.numbers = value [] :=
    Except.ok.inj (Prod.mk.inj ((hall p.numbers).symm.trans (hall []))).1
  have hrun : m.runFrom p = (.ok (value p.numbers), q) :=
    (h p).run_of_none (sound_none p) hq (proceed_none_numbers hq ▸ List.prefix_rfl)
  rw [hrun, hvalue]
  exact ⟨rfl, proceed_none_numbers hq⟩

end Follows

/-- How a node outside a pass fails, if it does. -/
def Scope.failureOutside? (s : Scope) (languages descriptive : Bool) (n : Node) : Option Abort :=
  (n.placedPoints descriptive).findSome? (s.abortOutside? languages)

section

variable (o : Options) (descriptive : Bool) (n : Node)

theorem placed_follows_outside (p : Progress) :
    Follows ⟨o.codeLanguage, none⟩ (placed { options := o } descriptive n)
      (n.placedPoints descriptive)
      (fun numbers => n.fragment numbers
        (n.pieces { options := o } trimPieces descriptive ++ blankPieces n)) p :=
  placed_follows (trims_trimPieces o none) descriptive n p

theorem failureOutside?_eq :
    (n.placedPoints descriptive).findSome? (Point.abort? ⟨languages, none⟩) =
      s.failureOutside? languages descriptive n :=
  ((failsAlike_points s languages).holds n descriptive).append (.single rfl)

theorem placed_outside_some {e : Abort}
    (he : s.failureOutside? o.codeLanguage descriptive n = some e) (p : Progress) :
    ((placed { options := o } descriptive n).runFrom p).1 = .error e :=
  Follows.run_outside_some (placed_follows_outside o descriptive n)
    ((failureOutside?_eq descriptive n).trans he) p

theorem placed_outside_none (hnone : s.failureOutside? o.codeLanguage descriptive n = none)
    (p : Progress) :
    ((placed { options := o } descriptive n).runFrom p).1 =
        .ok (n.fragment [] (n.pieces { options := o } trimPieces descriptive ++ blankPieces n)) ∧
      ((placed { options := o } descriptive n).runFrom p).2.numbers = p.numbers :=
  Follows.run_outside_none (placed_follows_outside o descriptive n)
    ((failureOutside?_eq descriptive n).trans hnone) p

/-- The outcome of a node outside a pass does not depend on what has been numbered before. -/
theorem placed_outside_fst (p p' : Progress) :
    ((placed { options := o } descriptive n).runFrom p).1 =
      ((placed { options := o } descriptive n).runFrom p').1 := by
  cases h : Scope.failureOutside? {} o.codeLanguage descriptive n with
  | some e => rw [placed_outside_some o descriptive n h, placed_outside_some o descriptive n h]
  | none =>
      rw [(placed_outside_none o descriptive n h p).1, (placed_outside_none o descriptive n h p').1]

end

/-! ### What needs a pass -/

/-- A pass fails because of its document, and not for want of a pass. -/
theorem abort?_ne_noPass (languages : Bool) (s : Scope) (m : Point) :
    m.abort? ⟨languages, some s⟩ ≠ some .noPass := by
  intro h
  cases ofDocument_of_abort? h

theorem abortOutside?_eq_noPass {m : Point} :
    s.abortOutside? languages m = some .noPass ↔ m.asks = true := by
  unfold Scope.abortOutside?
  cases m.asks with
  | true => simp
  | false => simp [abort?_ne_noPass]

theorem abortOutside?_eq_none {m : Point} :
    s.abortOutside? languages m = none ↔ m.asks = false ∧ m.abort? ⟨languages, some s⟩ = none := by
  unfold Scope.abortOutside?
  cases m.asks <;> simp

/-- The blanks after a node need no pass. -/
theorem failureOutside?_ne_noPass {descriptive : Bool} {n : Node}
    (h : ∀ m ∈ n.points descriptive, m.asks = false) :
    s.failureOutside? languages descriptive n ≠ some .noPass := by
  intro hasked
  obtain ⟨m, hm, hasks⟩ := List.exists_of_findSome?_eq_some hasked
  rw [abortOutside?_eq_noPass] at hasks
  rcases List.mem_append.1 hm with hm | hm
  · simp [h m hm] at hasks
  · obtain rfl := List.mem_singleton.1 hm
    cases hasks

/-- **What needs no pass is the same everywhere**: in every document, whatever has been numbered,
and at every place, but for the terms of items. -/
theorem placed_same (o : Options) {n : Node} {descriptive descriptive' : Bool}
    (hitem : n.kind = .item → descriptive' = descriptive)
    (h : ∀ m ∈ n.points descriptive, m.asks = false) (scope? scope?' : Option Scope)
    (p p' : Progress) :
    ((placed { options := o, scope? := scope?' } descriptive' n).runFrom p').1 =
      ((placed { options := o, scope? := scope? } descriptive n).runFrom p).1 := by
  rw [placed_congr _ hitem]
  -- Both outcomes are that outside a pass.
  have hout : ∀ (t? : Option Scope) (q : Progress),
      ((placed { options := o, scope? := t? } descriptive n).runFrom q).1 =
        ((placed { options := o } descriptive n).runFrom q).1 := by
    intro t? q
    rcases placed_unlessAsked { options := o, scope? := t? } descriptive n q with hasked | heq
    · exfalso
      have hnot : Scope.failureOutside? {} o.codeLanguage descriptive n ≠ some .noPass :=
        failureOutside?_ne_noPass h
      cases hfails : Scope.failureOutside? {} o.codeLanguage descriptive n with
      | none =>
          have hok := (placed_outside_none o descriptive n hfails q).1
          exact nomatch hok.symm.trans hasked
      | some e =>
          have hfailed := placed_outside_some o descriptive n hfails q
          cases hfailed.symm.trans hasked
          exact hnot hfails
    · exact congrArg Prod.fst heq
  calc
    _ = ((placed { options := o } descriptive n).runFrom p').1 := hout scope?' p'
    _ = ((placed { options := o } descriptive n).runFrom p).1 :=
      placed_outside_fst o descriptive n p' p
    _ = _ := (hout scope? p).symm

/-! ### Outside and in a pass -/

/-- A pass in which no footnote is numbered lists none. -/
theorem footnoteSection_run_nil {env : Environment} (hs : env.scope? = some s) {p : Progress}
    (hp : p.numbers = []) : (footnoteSection env).runFrom p = (.ok "", p) := by
  have hrun := footnoteAt_run hs 0 p
  simp only [FootnoteTable.at?, hp, List.getElem?_nil] at hrun
  rw [footnoteSection_of_scope hs, noteSection, PassM.runFrom_bind_ok hrun]
  rfl

/-- A body that yields a text and numbers nothing is all that a pass writes. -/
theorem document_run_of_unnumbered {env : Environment} (hs : env.scope? = some s) {root : Node}
    {p : Progress} {text : String}
    (hbody : ((transcode env root).runFrom { p with record := p.record ++ [.began root.kind] }).1 =
      .ok (.text text))
    (hnumbers : ((transcode env root).runFrom
      { p with record := p.record ++ [.began root.kind] }).2.numbers = []) :
    ((document env root).runFrom p).1 = .ok text := by
  rcases hrun : (transcode env root).runFrom { p with record := p.record ++ [.began root.kind] }
    with ⟨outcome, q⟩
  rw [hrun] at hbody hnumbers
  obtain rfl : outcome = .ok (.text text) := hbody
  have hnumbers : q.numbers = [] := hnumbers
  have hbegan : (PassM.note (.began root.kind)).runFrom p =
      (.ok (), { p with record := p.record ++ [.began root.kind] }) := rfl
  rw [document, PassM.runFrom_bind_ok hbegan, PassM.runFrom_bind_ok hrun,
    PassM.runFrom_bind_ok (footnoteSection_run_nil hs hnumbers)]
  simp only [Fragment.text?, PassM.ofMisfit_ok, pure_bind, String.append_empty]
  rfl

theorem document_run_of_error {env : Environment} {root : Node} {p : Progress} {e : Abort}
    (hbody : ((transcode env root).runFrom { p with record := p.record ++ [.began root.kind] }).1 =
      .error e) :
    ((document env root).runFrom p).1 = .error e := by
  have hbegan : (PassM.note (.began root.kind)).runFrom p =
      (.ok (), { p with record := p.record ++ [.began root.kind] }) := rfl
  rw [document, PassM.runFrom_bind_ok hbegan, SameRun.fst_bind_error hbody]

/-- What transcoding a tree outside a pass has to do with a pass over it on the same renderer. -/
structure OutsidePass (r : Renderer) (root : Node) : Prop where
  /-- If it yields something, that is a text, and the one of a pass that can begin. -/
  text : ∀ f, (r.perform fun env => transcode env root).1 = .ok f →
    ∃ text, f = .text text ∧
      (FootnoteTable.canCollect root.preorder = true → (r.render root).1.1 = .ok text)
  /-- It asks for a pass exactly if it comes to a node that needs one before anything fails. -/
  asked : (r.perform fun env => transcode env root).1 = .error .noPass ↔
    ∃ before m after, root.placedPoints false = before ++ m :: after ∧ m.asks = true ∧
      ∀ m' ∈ before, m'.asks = false ∧ m'.abort? (.ofDocument r.options root) = none
  /-- It tells the user to start one. -/
  message : Abort.noPass.message? =
    some "No transcoding pass is running; use render_to_string()"
  /-- If it fails in another way, a pass that can begin fails in that way too. -/
  failed : ∀ e, (r.perform fun env => transcode env root).1 = .error e → e ≠ .noPass →
    FootnoteTable.canCollect root.preorder = true → (r.render root).1.1 = .error e
  /-- A pass cannot begin if the label of some definition cannot be shown. -/
  refused : FootnoteTable.canCollect root.preorder = false →
    (r.render root).1.1 = .error (.misfit .longInteger)
  /-- Nothing is left on the renderer. -/
  renderer : (r.perform fun env => transcode env root).2 = r
  /-- What needs no pass is the same in a pass over any document and outside of one, whatever has
  been numbered, and at every place, but for the terms of items. -/
  same : ∀ (n : Node) (descriptive descriptive' : Bool),
    (n.kind = .item → descriptive' = descriptive) →
    (∀ m ∈ n.points descriptive, m.asks = false) →
    ∀ (scope? scope?' : Option Scope) (p p' : Progress),
      ((placed { options := r.options, scope? := scope?' } descriptive' n).runFrom p').1 =
        ((placed { options := r.options, scope? := scope? } descriptive n).runFrom p).1

/-- On an idle renderer, a computation runs outside a pass and from the beginning. -/
theorem Renderer.perform_of_idle {r : Renderer} (h : r.pass? = none) {α : Type}
    (m : Environment → PassM α) :
    r.perform m = (((m { options := r.options }).runFrom {}).1, r) := by
  obtain ⟨options, pass?⟩ := r
  cases h
  rfl

theorem Renderer.render_of_idle {r : Renderer} (h : r.pass? = none) (root : Node) :
    (r.render root).1 = renderDocument r.options root := by
  obtain ⟨options, pass?⟩ := r
  cases h
  rfl

/-- Outside a pass a tree asks for one at the first node that needs it. -/
theorem transcode_outside_asked (o : Options) (root : Node) (p : Progress) :
    ((transcode { options := o } root).runFrom p).1 = .error .noPass ↔
      ∃ before m after, root.placedPoints false = before ++ m :: after ∧ m.asks = true ∧
        ∀ m' ∈ before, m'.asks = false ∧ m'.abort? ⟨o.codeLanguage, some s⟩ = none := by
  have hfailure : ((transcode { options := o } root).runFrom p).1 = .error .noPass ↔
      s.failureOutside? o.codeLanguage false root = some .noPass := by
    rw [← placed_false]
    cases h : s.failureOutside? o.codeLanguage false root with
    | none => simp [(placed_outside_none o false root h p).1]
    | some e => simp [placed_outside_some o false root h p]
  rw [hfailure, Scope.failureOutside?, List.findSome?_eq_some_iff]
  simp only [abortOutside?_eq_noPass, abortOutside?_eq_none]

/-- In a pass over a document its body has the outcome that it has outside of one, unless that is to
ask for a pass. -/
theorem transcode_in_pass (o : Options) (root : Node) (p p' : Progress)
    (h : ((transcode { options := o } root).runFrom p).1 ≠ .error .noPass) :
    ((transcode (passEnvironment o root) root).runFrom p').1 =
        ((transcode { options := o } root).runFrom p).1 ∧
      ∀ f, ((transcode { options := o } root).runFrom p).1 = .ok f →
        ((transcode (passEnvironment o root) root).runFrom p').2.numbers = p'.numbers := by
  have hsame := placed_outside_fst o false root p' p
  have hrun := placed_unlessAsked (passEnvironment o root) false root p'
  have houtside : (passEnvironment o root).outside = { options := o } := rfl
  rw [houtside] at hrun
  simp only [placed_false] at hsame hrun
  rcases hrun with hasked | heq
  · exact absurd (hsame.symm.trans hasked) h
  · rw [heq]
    refine ⟨hsame, fun f hf => ?_⟩
    cases hfails : Scope.failureOutside? {} o.codeLanguage false root with
    | none => simpa only [placed_false] using (placed_outside_none o false root hfails p').2
    | some e =>
        have hfailed := placed_outside_some o false root hfails p
        rw [placed_false] at hfailed
        exact nomatch hfailed.symm.trans hf

/-- A tree that is no stray value becomes a text. -/
theorem transcode_outside_text {o : Options} {root : Node} (hroot : root.stray? = none)
    {p : Progress} {f : Fragment}
    (h : ((transcode { options := o } root).runFrom p).1 = .ok f) : ∃ text, f = .text text := by
  rw [← placed_false] at h
  cases hfails : Scope.failureOutside? {} o.codeLanguage false root with
  | none =>
      rw [(placed_outside_none o false root hfails p).1, Node.fragment_of_none [] hroot] at h
      exact ⟨_, (Except.ok.inj h).symm⟩
  | some e => exact nomatch (placed_outside_some o false root hfails p).symm.trans h

/-- **Transcoding outside a pass yields what a pass yields, or fails as it does, or asks for a
pass**; what asks for nothing is the same everywhere. -/
theorem transcode_outside {r : Renderer} (hidle : r.pass? = none) {root : Node}
    (hroot : root.kind = .entity → ∀ v, root.value? "utf8" = some v → v.asText?.isSome = true) :
    OutsidePass r root := by
  have hperform := r.perform_of_idle hidle fun env => transcode env root
  have hrender : FootnoteTable.canCollect root.preorder = true → (r.render root).1.1 =
      ((document (passEnvironment r.options root) root).runFrom {}).1 := by
    intro hcollect
    rw [r.render_of_idle hidle, renderDocument_eq, wholePass_of_canCollect hcollect]
  constructor
  case text =>
      intro f hf
      rw [hperform] at hf
      obtain ⟨text, rfl⟩ := transcode_outside_text (Node.stray?_eq_none_of_text hroot) hf
      obtain ⟨hbody, hnumbers⟩ := transcode_in_pass r.options root {}
        { record := [.began root.kind] } (fun hasked => nomatch hf.symm.trans hasked)
      refine ⟨text, rfl, fun hcollect => ?_⟩
      rw [hrender hcollect]
      exact document_run_of_unnumbered (s := .ofDocument root) rfl (hbody.trans hf)
        (hnumbers _ hf)
  case asked =>
      rw [hperform]
      exact transcode_outside_asked r.options root {}
  case message => rfl
  case failed =>
      intro e he hne hcollect
      rw [hperform] at he
      have hbody := (transcode_in_pass r.options root {} { record := [.began root.kind] }
        (fun hasked => hne (Except.error.inj (he.symm.trans hasked)))).1
      rw [hrender hcollect]
      exact document_run_of_error (hbody.trans he)
  case refused =>
      intro hcollect
      rw [r.render_of_idle hidle, renderDocument_error_iff, Scope.documentPoints,
        List.findSome?_cons, Point.beginning, hcollect]
      rfl
  case renderer => rw [hperform]
  case same => exact fun n _ _ hitem h scope? scope?' p p' =>
    placed_same r.options hitem h scope? scope?' p p'

/-- An entity with a blank after it is transcoded outside a pass. -/
theorem transcode_outside_entity :
    let root : Node :=
      .mk .entity [("utf8", .value (.text "α")), ("post_blank", .value (.int 1))] []
    OutsidePass {} root ∧
      (({} : Renderer).perform fun env => transcode env root).1 = .ok (.text "α ") := by
  refine ⟨transcode_outside rfl fun _ v hv => ?_, rfl⟩
  obtain rfl : Value.text "α" = v := Option.some.inj hv
  rfl

/-- An item has its term in a descriptive list and nowhere else, so its text depends on its place
although it needs no pass. -/
theorem placed_item_depends :
    ¬∀ (n : Node), (∀ descriptive, ∀ m ∈ n.points descriptive, m.asks = false) →
      ∀ (descriptive descriptive' : Bool) (scope? scope?' : Option Scope) (p p' : Progress),
        ((placed { scope? := scope?' } descriptive' n).runFrom p').1 =
          ((placed { scope? := scope? } descriptive n).runFrom p).1 := by
  intro hsame
  let item : Node := .mk .item [("tag", .value (.text "t"))]
    [.mk .plainText [("value", .value (.text "a"))] []]
  have hasks : ∀ descriptive, ∀ m ∈ item.points descriptive, m.asks = false := by
    intro descriptive m hm
    cases descriptive <;>
      simp [item, Node.points, Kind.role, passagePoints, listPoints] at hm <;>
      rcases hm with rfl | rfl | rfl | rfl | rfl <;> rfl
  have hplain : ((placed {} false item).runFrom {}).1 = .ok (.text "[*]a\n") := rfl
  have hterm : ((placed {} true item).runFrom {}).1 = .ok (.text "[*][i]t[/i]: a\n") := rfl
  have heq := hplain.symm.trans ((hsame item hasks true false none none {} {}).trans hterm)
  simp at heq

/-- A tree need not have the same text outside a pass and in one, nor at all places.  A definition
whose label has too many digits is nothing where it stands, and keeps a pass from beginning. -/
theorem transcode_differs :
    (let root : Node := .mk .footnoteDefinition [("label", .value (.int (Int.pow 10 4300)))] []
     (({} : Renderer).perform fun env => transcode env root).1 = .ok (.text "") ∧
      (({} : Renderer).render root).1.1 = .error (.misfit .longInteger)) ∧
      ¬∀ (n : Node), (∀ descriptive, ∀ m ∈ n.points descriptive, m.asks = false) →
        ∀ (descriptive descriptive' : Bool) (scope? scope?' : Option Scope) (p p' : Progress),
          ((placed { scope? := scope?' } descriptive' n).runFrom p').1 =
            ((placed { scope? := scope? } descriptive n).runFrom p).1 :=
  ⟨⟨rfl, failsLong_iff.1 (by decide +kernel)⟩, placed_item_depends⟩

end ForumMarkup
