import ForumMarkup.Proofs.Document.Induction
import ForumMarkup.Proofs.Markup.FootnoteTable
import ForumMarkup.Proofs.Pass.Course
import ForumMarkup.Proofs.Pass.Pieces
/-
**The fold follows the points of a tree and writes its pieces.**

The fold that transcodes a tree runs through the points of the tree; if one of them ends the pass,
the fold ends in the same way, and if none does, it writes the pieces of the tree under the numbers
that the run has given.  Everything else that is known of passes comes from this one fact, so that
later proofs look at points and pieces and not at the fold.

Main results:

* `ForumMarkup.withBlanks_eq`, `ForumMarkup.joined_eq`, `ForumMarkup.headlineText_eq` and their
  siblings — the steps of the fold that change nothing;
* `ForumMarkup.linkMarkup_follows`, `ForumMarkup.referenceMarkup_follows` — the two steps that do;
* `ForumMarkup.fold_follows` — **the fold follows the points and writes the pieces**;
* `ForumMarkup.contents_follow`, `ForumMarkup.transcode_follows` — the same for the contents of a
  node and for a node with the blanks after it.
-/

set_option autoImplicit false

namespace ForumMarkup

/-! ### Steps that change nothing -/

variable {premises : Premises} {env : Environment} {trim : List Piece → List Piece}
  (numbers : List String) (p : Progress)

theorem Node.fragment_of_stray {n : Node} {v : Value} (h : n.stray? = some v) (ps : List Piece) :
    n.fragment numbers ps = .stray v := by
  simp [fragment, h]

theorem Node.fragment_of_none {n : Node} (h : n.stray? = none) (ps : List Piece) :
    n.fragment numbers ps = .text (written numbers ps) := by
  simp [fragment, h]

/-- Blanks that can be written are characters of one sort. -/
theorem blanks_eq {kind : Kind} {count : Int} {space : String} (h : blanks kind count = .ok space) :
    space = written numbers
      (List.replicate count.toNat (.char (if kind.isObject then ' ' else '\n'))) := by
  simp only [blanks] at h
  split at h
  · cases h
    simp [← String.toList_inj, List.flatMap_replicate, Piece.chars]
  · cases h

theorem withBlanks_eq (n : Node) (ps : List Piece) :
    withBlanks n (n.fragment numbers ps) =
      PassM.settle (blanksAbort? n) (n.fragment numbers (ps ++ blankPieces n)) := by
  unfold withBlanks blanksAbort? blankPieces
  cases hcount : n.postBlank with
  | error e => rfl
  | ok count =>
      by_cases hzero : count = 0
      · simp [hzero, PassM.settle]
      · cases hblanks : blanks n.kind count with
        | error e => simp [hzero, hblanks, PassM.settle]
        | ok space =>
            -- Blanks can only be added to a text, so a stray value ends the pass here.
            cases hstray : n.stray? with
            | some v =>
                simp [hzero, hblanks, Node.fragment_of_stray numbers hstray, Fragment.text?,
                  PassM.settle]
            | none =>
                have hspace : space = written numbers
                    (List.replicate count.toNat (.char (if n.kind.isObject then ' ' else '\n'))) :=
                  blanks_eq numbers hblanks
                simp [hzero, hblanks, Node.fragment_of_none numbers hstray,
                  Fragment.text?, PassM.settle, hspace]

theorem join_listFragments (inList : Bool) (ns : List Node) :
    Fragment.join (listFragments env trim numbers inList ns) =
      if ns.any fun n => n.stray?.isSome then .error .notText
      else .ok (written numbers (listPieces env trim inList ns)) := by
  induction ns with
  | nil => rfl
  | cons n ns ih =>
      have hcons : Fragment.join (listFragments env trim numbers inList (n :: ns)) = do
          let s ← (n.fragment numbers (n.pieces env trim inList ++ blankPieces n)).text?
          return s ++ (← Fragment.join (listFragments env trim numbers inList ns)) := rfl
      rw [hcons, ih]
      cases hstray : n.stray? with
      | some v =>
          rw [Node.fragment_of_stray numbers hstray]
          simp [Fragment.text?, hstray, bind, Except.bind]
      | none =>
          rw [Node.fragment_of_none numbers hstray]
          cases hany : ns.any fun n => n.stray?.isSome <;>
            simp [Fragment.text?, hstray, hany, listPieces, bind, Except.bind, pure, Except.pure,
              String.append_assoc]

theorem joined_eq (inList : Bool) (ns : List Node) :
    joined (listFragments env trim numbers inList ns) =
      PassM.settle (Point.abort? premises (.joined ns))
        (written numbers (listPieces env trim inList ns)) := by
  rw [joined, join_listFragments, Point.abort?]
  split <;> rfl

theorem passageText_eq (v : Value) :
    PassM.ofMisfit (passageText v) =
      PassM.settle (misfitOf (passageText v)) (written numbers (wordedPieces v)) := by
  unfold passageText
  split <;> simp [misfitOf, PassM.settle, wordedPieces, Value.asText?]

theorem headlineLevel_eq (kind : Kind) (ps : List (String × Property)) (cs : List Node) :
    headlineLevel env ps =
      PassM.settle (Point.abort? env.premises (.level (.mk kind ps cs)))
        (writtenLevel env.scope? ps) := by
  cases hlevel : (Node.valueIn? "level" ps).getD (.int 1) with
  | int n =>
      cases hscope : env.scope? <;>
        simp [headlineLevel, writtenLevel, Point.abort?, countsLevel, Node.properties, hlevel,
          Environment.scope, Environment.premises, hscope, PassM.settle]
  | _ =>
      simp [headlineLevel, writtenLevel, Point.abort?, countsLevel, Node.properties, hlevel,
        PassM.settle]

theorem headlineText_eq (title : String) (level : Value) :
    headlineText title level =
      PassM.settle (levelAbort? level) (headlineLine (markOf level) title) := by
  unfold headlineText formatHeadline levelAbort? markOf
  cases headlineMark level with
  | ok mark => rfl
  | error u => rfl

/-! ### Steps that change the progress -/

theorem linkMarkup_follows (ps : List (String × Property)) (cs : List Node)
    (description : List Piece) :
    Follows premises (linkMarkup (partsIn ps) (written numbers description))
      [.construct (.mk .link ps cs)] (fun _ => written numbers (linkPieces ps description)) p := by
  have habort : Point.abort? premises (.construct (.mk .link ps cs)) = abortOf (urlIn ps) := rfl
  cases hurl : urlIn ps with
  | error e =>
      rw [hurl] at habort
      rw [linkMarkup_of_error _ hurl]
      exact Follows.of_abort [] _ habort rfl
  | ok url =>
      rw [hurl] at habort
      refine Follows.of_point habort fun _ _ => ?_
      have hadvance : Point.advance premises.scope? p (.construct (.mk .link ps cs)) =
          { p with record :=
              p.record ++ [.resolved (partsIn ps).scheme (partsIn ps).target url] } := by
        simp [Point.advance, Point.numbered?, Node.numbered?, Point.event?, hurl, addLabels,
          Except.toOption]
      rw [written_linkPieces numbers hurl, hadvance, linkMarkup_of_ok _ hurl]
      rfl

/-- The number of a label that is defined is its place among the labels after it has been added. -/
theorem numberFor_of_isSome {t : FootnoteTable} {label : String}
    (h : (lookupEntry label t.definitions).isSome = true) :
    t.numberFor label = .ok ((addLabel t.numbers label).idxOf label + 1,
      { t with numbers := addLabel t.numbers label }) := by
  obtain ⟨d, hd⟩ := Option.isSome_iff_exists.1 h
  by_cases hmem : label ∈ t.numbers
  · simp [FootnoteTable.numberFor, FootnoteTable.place?_eq, hmem, addLabel]
  · simp [FootnoteTable.numberFor, FootnoteTable.place?_eq, hmem, addLabel, hd, List.idxOf_append]

theorem numberFor_of_isNone {t : FootnoteTable} {label : String}
    (h : lookupEntry label t.definitions = none) (hmem : label ∉ t.numbers) :
    t.numberFor label = .error (.undefinedFootnote (.text label)) := by
  simp [FootnoteTable.numberFor, FootnoteTable.place?_eq, hmem, h]

theorem footnoteNumber_run {s : Scope} {label : String} (hs : env.scope? = some s)
    (h : s.defines label = true) :
    (footnoteNumber env label).runFrom p =
      (.ok ((addLabel p.numbers label).idxOf label + 1),
        { p with numbers := addLabel p.numbers label }) := by
  have hnumber := numberFor_of_isSome
    (t := { definitions := s.definitions, numbers := p.numbers }) h
  simp only [footnoteNumber, Environment.scope, hs, pure_bind]
  rw [PassM.runFrom_bind_ok (PassM.runFrom_get p), hnumber]
  rfl

theorem footnoteNumber_run_undefined {s : Scope} {label : String} (hs : env.scope? = some s)
    (hp : p.Sound env.scope?) (h : s.defines label = false) :
    (footnoteNumber env label).runFrom p =
      (.error (.unsupported (.undefinedFootnote (.text label))), p) := by
  -- A label that has a number is not looked up again, so the progress has to be sound.
  have hmem : label ∉ p.numbers := fun hmem => by simp [hp s hs label hmem] at h
  have hnumber := numberFor_of_isNone
    (t := { definitions := s.definitions, numbers := p.numbers }) (by simpa [Scope.defines] using h)
    hmem
  simp only [footnoteNumber, Environment.scope, hs, pure_bind]
  rw [PassM.runFrom_bind_ok (PassM.runFrom_get p), hnumber]
  rfl

/-- The mark of a label that has been numbered. -/
theorem formatReference_eq {labels : List String} {label : String} (h : label ∈ labels)
    (hlabels : labels <+: numbers) :
    formatReference (.int (labels.idxOf label + 1 : Nat)) =
      written numbers [.mark label, .char ' '] := by
  obtain ⟨others, rfl⟩ := hlabels
  have hshown : (Value.int (labels.idxOf label + 1 : Nat)).shown =
      toString (labels.idxOf label + 1) := rfl
  rw [eq_comm, written_eq_iff, formatReference, hshown]
  simp [Piece.chars, List.idxOf_append_of_mem h]

/-- A reference without a definition of its own is written as the mark of its label, once the table
is there and the label can be shown. -/
theorem referenceMarkup_of_not_inline {ps : List (String × Property)} {cs : List Node}
    (h : isInlineFootnote ps cs = false) : referenceMarkup env ps cs = do
      let _ ← env.scope
      let label ← PassM.settle (showing (isShowableIn "label" ps)) (labelIn ps)
      let number ← footnoteNumber env label
      return formatReference (.int number) := by
  rw [labelIn, ← ofMisfit_shownIn]
  simp [referenceMarkup, h]

/-- A reference whose label has a definition numbers it. -/
theorem Point.advance_reference {s : Scope} {ps : List (String × Property)} {cs : List Node}
    (h : isInlineFootnote ps cs = false) (hshown : isShowableIn "label" ps = true)
    (hdefined : s.defines (labelIn ps) = true) :
    Point.advance (some s) p (.construct (.mk .footnoteReference ps cs)) =
      { p with numbers := addLabel p.numbers (labelIn ps) } := by
  simp [Point.advance, Point.numbered?, Node.numbered?, Point.event?, h, hshown, hdefined,
    addLabels]

theorem referenceMarkup_follows (ps : List (String × Property)) (cs : List Node) :
    Follows env.premises (referenceMarkup env ps cs) [.construct (.mk .footnoteReference ps cs)]
      (fun numbers => written numbers [.mark (labelIn ps), .char ' ']) p := by
  have habort : Point.abort? env.premises (.construct (.mk .footnoteReference ps cs)) =
      constructAbort? env.premises (.mk .footnoteReference ps cs) := rfl
  simp only [constructAbort?, Kind.role] at habort
  -- The cases are those in which the point ends the pass, in the order of its checks.
  intro hp
  cases hinline : isInlineFootnote ps cs with
  | true =>
      simp only [hinline, if_true] at habort
      refine Follows.of_abort [] _ habort ?_ hp
      simp [referenceMarkup, hinline]
  | false =>
      simp only [hinline, Bool.false_eq_true, if_false] at habort
      rw [referenceMarkup_of_not_inline hinline]
      have hscope : env.premises.scope? = env.scope? := rfl
      cases hs : env.scope? with
      | none =>
          rw [hscope, hs] at habort
          refine Follows.of_abort [] _ habort ?_ hp
          simp [Environment.scope, hs]
      | some s =>
          rw [hscope, hs] at habort
          simp only [Environment.scope, hs, pure_bind]
          cases hshown : isShowableIn "label" ps with
          | false =>
              simp only [hshown, Bool.not_false, if_true] at habort
              exact Follows.of_abort [] _ habort rfl hp
          | true =>
              simp only [hshown, Bool.not_true, Bool.false_eq_true, if_false] at habort
              have hlabel : PassM.settle (showing true) (labelIn ps) = pure (labelIn ps) := rfl
              rw [hlabel, pure_bind]
              cases hd : s.defines (labelIn ps) with
              | false =>
                  rw [hd] at habort
                  have hrun := footnoteNumber_run_undefined p hs hp hd
                  exact Follows.of_abort [] _ habort (PassM.runFrom_bind_error hrun) hp
              | true =>
                  rw [hd, if_pos rfl] at habort
                  refine Follows.of_point habort (fun numbers hlabels => ?_) hp
                  -- The place of the label is the same in every list that begins with these
                  -- numbers.
                  rw [hscope, hs, Point.advance_reference p hinline hshown hd] at hlabels ⊢
                  rw [PassM.runFrom_bind_ok (footnoteNumber_run p hs hd), PassM.runFrom_pure,
                    formatReference_eq numbers (mem_addLabel.2 (.inr rfl)) hlabels]

/-! ### The fold -/

variable (env trim)

/-- The fold follows the points of a tree and writes its pieces. -/
def NodeFollows (n : Node) : Prop :=
  ∀ inList p, Follows env.premises (entry env inList n) (n.points inList)
    (fun numbers => n.fragment numbers (n.pieces env trim inList)) p

/-- The same for a list of trees. -/
def ListFollows (ns : List Node) : Prop :=
  ∀ inList p, Follows env.premises (entries env inList ns) (listPoints inList ns)
    (fun numbers => listFragments env trim numbers inList ns) p

/-- The same for a passage. -/
def PassageFollows (ps : List (String × Property)) : Prop :=
  ∀ name p, Follows env.premises (passage env name ps) (passagePoints name ps)
    (fun numbers => written numbers (passagePieces env trim name ps)) p

variable {env trim}

/-- The entries of a list of nodes, joined. -/
theorem ListFollows.joined {ns : List Node} (h : ListFollows env trim ns) (inList : Bool) :
    Follows env.premises (entries env inList ns >>= ForumMarkup.joined)
      (listPoints inList ns ++ [.joined ns])
      (fun numbers => written numbers (listPieces env trim inList ns)) p :=
  (h inList p).bind fun numbers _ _ => Follows.of_settle rfl rfl (joined_eq numbers inList ns)

theorem ListFollows.contents {ns : List Node} (h : ListFollows env trim ns) :
    Follows env.premises (fragments env ns >>= ForumMarkup.joined)
      (listPoints false ns ++ [.joined ns])
      (fun numbers => written numbers (listPieces env trim false ns)) p := by
  rw [fragments_eq]
  exact h.joined p false

/-- Only an entity can be stray. -/
theorem Node.stray?_of_role {kind : Kind} (ps : List (String × Property)) (cs : List Node)
    (h : kind.role ≠ .leaf) : (Node.mk kind ps cs).stray? = none := by
  have hne : kind ≠ .entity := by
    rintro rfl
    exact h rfl
  simp [stray?, hne]

section

variable {kind : Kind} {ps : List (String × Property)} {cs : List Node}
  (hps : PassageFollows env trim ps) (hcs : ListFollows env trim cs)

include hps hcs in
theorem NodeFollows.container (ht : Trims env trim) (h : kind.role = .container) :
    NodeFollows env trim (.mk kind ps cs) := by
  intro inList p
  have hstray : (Node.mk kind ps cs).stray? = none := Node.stray?_of_role ps cs (by simp [h])
  have habort : Point.abort? env.premises (.construct (.mk kind ps cs)) = none := by
    simp [Point.abort?, constructAbort?, h]
  have hnumbered : Point.numbered? env.premises.scope? (.construct (.mk kind ps cs)) = none := by
    cases kind <;> first | rfl | cases h
  have hevent : Point.event? p (.construct (.mk kind ps cs)) = none := by
    cases kind <;> first | rfl | cases h
  rw [entry, Node.points]
  simp only [h]
  refine Follows.skip habort hnumbered hevent ?_
  -- Only an item of a descriptive list has a term in front of its contents.
  by_cases hitem : inList = true ∧ kind = .item
  · rw [if_pos hitem, if_pos hitem]
    refine ((hps "tag" p).bind fun numbers q _ =>
      (hcs.contents q).map fun s => rfl).congr fun numbers => ?_
    rw [Node.fragment_of_none numbers hstray, Node.pieces]
    simp only [h, if_pos hitem, written_dressPieces numbers ht, written_termPieces]
  · rw [if_neg hitem, if_neg hitem, visit_container env ps cs h]
    refine ((hcs.contents p).map fun s => rfl).congr fun numbers => ?_
    rw [Node.fragment_of_none numbers hstray, Node.pieces]
    simp only [h, if_neg hitem, written_dressPieces numbers ht, written_nil]

theorem entry_of_role (inList : Bool) (h : kind.role ≠ .container) :
    entry env inList (.mk kind ps cs) = visit env (.mk kind ps cs) := by
  have hne : kind ≠ .item := by
    rintro rfl
    exact h rfl
  simp [entry, hne]

theorem NodeFollows.leaf (h : kind.role = .leaf) : NodeFollows env trim (.mk kind ps cs) := by
  intro inList p
  have hnumbered : Point.numbered? env.premises.scope? (.construct (.mk kind ps cs)) = none := by
    cases kind <;> first | rfl | cases h
  have hevent : Point.event? p (.construct (.mk kind ps cs)) = none := by
    cases kind <;> first | rfl | cases h
  rw [entry_of_role inList (by simp [h]), visit_leaf env ps cs h, Node.points]
  simp only [h]
  refine (Follows.of_settle (a := leafFragment env.options kind ps) hnumbered hevent ?_).congr
    fun numbers => ?_
  · simp [Point.abort?, constructAbort?, h]
  · rw [Node.pieces]
    simp only [h]
    exact written_leafPieces numbers _ kind ps cs h

theorem NodeFollows.codeBlock (h : kind.role = .codeBlock) :
    NodeFollows env trim (.mk kind ps cs) := by
  intro inList p
  have hstray : (Node.mk kind ps cs).stray? = none := Node.stray?_of_role ps cs (by simp [h])
  have hnumbered : Point.numbered? env.premises.scope? (.construct (.mk kind ps cs)) = none := by
    cases kind <;> first | rfl | cases h
  have hevent : Point.event? p (.construct (.mk kind ps cs)) = none := by
    cases kind <;> first | rfl | cases h
  have habort : Point.abort? env.premises (.construct (.mk kind ps cs)) =
      (misfitOf (codeOf kind ps)).or (languageAbort? env.options.codeLanguage kind ps) := by
    simp [Point.abort?, constructAbort?, h, Environment.premises]
  rw [entry_of_role inList (by simp [h]), visit_codeBlock env ps cs h, Node.points]
  simp only [h]
  cases hcode : codeOf kind ps with
  | error e =>
      rw [hcode] at habort
      exact Follows.of_abort [] _ habort rfl
  | ok code =>
      rw [hcode] at habort
      refine (Follows.of_settle (a := codeFragment code (codeAttributes env.options kind ps))
        hnumbered hevent ?_).congr fun numbers => ?_
      · rw [habort]
        rfl
      · rw [Node.fragment_of_none numbers hstray, Node.pieces]
        simp only [h, written_codePieces numbers _ hcode]

theorem NodeFollows.refused (h : kind.role = .refused) : NodeFollows env trim (.mk kind ps cs) := by
  intro inList p
  rw [entry_of_role inList (by simp [h]), visit_refused env ps cs h, Node.points]
  simp only [h]
  exact Follows.of_abort [] _ (by simp [Point.abort?, constructAbort?, h]) rfl

include hcs in
theorem NodeFollows.link : NodeFollows env trim (.mk .link ps cs) := by
  intro inList p
  -- The target is resolved when the description is there, so its point comes last.
  have hparts : Follows env.premises (PassM.settle (partsAbort? ps) (partsIn ps))
      [.parts (.mk .link ps cs)] (fun _ => partsIn ps) p :=
    Follows.of_settle rfl rfl rfl
  rw [entry_of_role inList (by decide), visit_link]
  exact (hparts.bind fun _ q _ => (hcs.contents q).bind fun numbers q' _ =>
    (linkMarkup_follows numbers q' ps cs _).map fun s => rfl).congr fun numbers => rfl

theorem NodeFollows.reference : NodeFollows env trim (.mk .footnoteReference ps cs) := by
  intro inList p
  rw [entry_of_role inList (by decide), visit_footnoteReference]
  exact ((referenceMarkup_follows p ps cs).map fun s => rfl).congr fun numbers => rfl

include hcs in
theorem NodeFollows.list (ht : Trims env trim) : NodeFollows env trim (.mk .plainList ps cs) := by
  intro inList p
  have habort : Point.abort? env.premises (.construct (.mk .plainList ps cs)) =
      abortOf (listTypeOf ps) := rfl
  rw [entry_of_role inList (by decide), visit_plainList]
  cases htype : listTypeOf ps with
  | error u =>
      rw [htype] at habort
      exact Follows.of_abort _ _ habort rfl
  | ok type =>
      have hdescriptive : isDescriptive ps = decide (type = .descriptive) := by
        cases type <;> simp [isDescriptive, htype]
      rw [htype] at habort
      -- The points tell from the properties, and the fold from the type, whether items have terms.
      refine Follows.skip habort rfl rfl ?_
      rw [PassM.ofExcept_ok, pure_bind, items_eq, hdescriptive]
      refine ((hcs.joined p _).map fun s => rfl).congr fun numbers => ?_
      rw [← hdescriptive]
      change Fragment.text (written numbers (plainListPieces trim ps _)) = _
      rw [written_plainListPieces numbers ht htype]

include hps hcs in
theorem NodeFollows.headline : NodeFollows env trim (.mk .headline ps cs) := by
  intro inList p
  rw [entry_of_role inList (by decide), visit_headline]
  have habort : Point.abort? env.premises (.construct (.mk .headline ps cs)) =
      if isSuppressed ps then none else levelAbort? (writtenLevel env.scope? ps) := rfl
  have hpoints : (Node.mk .headline ps cs).points inList =
      if isSuppressed ps then [.construct (.mk .headline ps cs)]
      else .level (.mk .headline ps cs) :: (passagePoints "title" ps ++
        .construct (.mk .headline ps cs) :: (listPoints false cs ++ [.joined cs])) := rfl
  have hpieces : ∀ numbers, (Node.mk .headline ps cs).fragment numbers
      ((Node.mk .headline ps cs).pieces env trim inList) =
        .text (written numbers (if isSuppressed ps then []
          else headlinePieces (markOf (writtenLevel env.scope? ps))
            (passagePieces env trim "title" ps) ++ listPieces env trim false cs)) :=
    fun _ => rfl
  rw [hpoints]
  refine Follows.congr ?_ hpieces
  cases hsuppressed : isSuppressed ps with
  | true =>
      rw [hsuppressed, if_pos rfl] at habort
      simp only [if_true, written_nil]
      exact Follows.of_settle rfl rfl (by rw [habort]; rfl)
  | false =>
      rw [hsuppressed, if_neg Bool.false_ne_true] at habort
      simp only [Bool.false_eq_true, if_false, written_append, written_headlinePieces]
      -- The level is counted before the title, but it is refused after it.
      have hlevel : Follows env.premises (headlineLevel env ps) [.level (.mk .headline ps cs)]
          (fun _ => writtenLevel env.scope? ps) p :=
        Follows.of_settle rfl rfl (headlineLevel_eq .headline ps cs)
      have hline : ∀ title q, Follows env.premises
          (headlineText title (writtenLevel env.scope? ps)) [.construct (.mk .headline ps cs)]
          (fun _ => headlineLine (markOf (writtenLevel env.scope? ps)) title) q := by
        intro title q
        refine Follows.of_settle rfl rfl ?_
        rw [habort, headlineText_eq]
      exact (hlevel.bind fun _ q _ => (hps "title" q).bind fun numbers q' _ =>
        (hline _ q').bind fun _ q'' _ => (hcs.contents q'').map fun below => rfl).congr fun _ => rfl

end

theorem fold_follows (ht : Trims env trim) :
    TreeCases (NodeFollows env trim) (ListFollows env trim) (PassageFollows env trim) where
  node kind ps cs hps hcs := by
    cases h : kind.role with
    | container => exact .container hps hcs ht h
    | leaf => exact .leaf h
    | codeBlock => exact .codeBlock h
    | refused => exact .refused h
    | headline => exact Kind.eq_headline h ▸ .headline hps hcs
    | list => exact Kind.eq_plainList h ▸ .list hcs ht
    | link => exact Kind.eq_link h ▸ .link hcs
    | reference => exact Kind.eq_footnoteReference h ▸ .reference
  nil := fun _ _ => Follows.pure []
  cons n ns hn hns := by
    intro inList p
    have hrest : ∀ numbers q, Follows env.premises
        (do
          let f ← withBlanks n (n.fragment numbers (n.pieces env trim inList))
          return f :: (← entries env inList ns))
        ([.blanks n] ++ listPoints inList ns)
        (fun numbers' => n.fragment numbers (n.pieces env trim inList ++ blankPieces n) ::
          listFragments env trim numbers' inList ns) q := by
      intro numbers q
      have hblanks : Follows env.premises
          (withBlanks n (n.fragment numbers (n.pieces env trim inList))) [.blanks n]
          (fun _ => n.fragment numbers (n.pieces env trim inList ++ blankPieces n)) q :=
        Follows.of_settle rfl rfl (withBlanks_eq numbers n (n.pieces env trim inList))
      exact (hblanks.bind fun _ q' _ => (hns inList q').map fun fs => rfl).congr fun _ => rfl
    exact ((hn inList p).bind fun numbers q _ => hrest numbers q).congr fun _ => rfl
  bare := fun _ _ => Follows.pure ""
  value name v ps hps := by
    intro sought p
    rw [passage, passagePoints]
    simp only [passagePieces]
    by_cases h : (name == sought) = true
    · simp only [if_pos h]
      refine (Follows.of_settle rfl rfl (passageText_eq [] v)).congr fun numbers => ?_
      simp [wordedPieces]
    · simp only [if_neg h]
      exact hps sought p
  nodes name ns ps hns hps := by
    intro sought p
    rw [passage, passagePoints]
    simp only [passagePieces]
    by_cases h : (name == sought) = true
    · simp only [if_pos h]
      exact hns.contents p
    · simp only [if_neg h]
      exact hps sought p

/-- The contents of a node follow their points and write their pieces. -/
theorem contents_follow (ht : Trims env trim) (ns : List Node) (p : Progress) :
    Follows env.premises (contents env ns) (contentPoints ns)
      (fun numbers => written numbers (listPieces env trim false ns)) p :=
  ((fold_follows ht).holds_nodes ns).contents p

/-- A node with the blanks after it follows its points and writes its pieces. -/
theorem transcode_follows (ht : Trims env trim) (n : Node) (p : Progress) :
    Follows env.premises (transcode env n) (n.points false ++ [.blanks n])
      (fun numbers => n.fragment numbers (n.pieces env trim false ++ blankPieces n)) p := by
  have hvisit := (fold_follows ht).holds n false p
  rw [entry_false] at hvisit
  exact (hvisit.bind fun numbers _ _ =>
    Follows.of_settle rfl rfl (withBlanks_eq numbers n _)).congr fun _ => rfl

end ForumMarkup
