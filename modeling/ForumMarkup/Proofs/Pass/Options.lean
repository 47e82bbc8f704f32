import ForumMarkup.Proofs.Document.Induction
import ForumMarkup.Proofs.Pass.Document
import ForumMarkup.Proofs.Pass.Reach
/-
**What options change.**

Each option is shown by one construct: the title over the footnotes is there if something refers to
a footnote, the placeholder stands in line breaks, and the switch for languages is asked by blocks
of source code that name one.  The only check of a pass that depends on options is the one whether a
language that is written can be shown, and so do its failures and its numbers.  Its text depends on
an option only if the pass reaches the construct that shows it.

Main definitions:

* `ForumMarkup.Node.option?` — the option that a node shows;
* `ForumMarkup.Options.AgreeOn` — options that agree on what the nodes at some points show.

Main results:

* `ForumMarkup.pieces_agree` — the pieces of a tree depend on the options that its nodes show;
* `ForumMarkup.proceed_languages` — what a run checks depends on the switch for languages at most at
  a language that cannot be shown;
* `ForumMarkup.renderDocument_options` — **options only touch their own constructs**.
-/

set_option autoImplicit false

namespace ForumMarkup

/-! ### The option that a node shows -/

/-- The option that a node shows. -/
def Node.option? : Node → Option OptionField
  | .mk kind ps _ =>
    match kind with
    | .lineBreak => some .lineBreak
    | .srcBlock => if (givenIn "language" ps).isSome then some .codeLanguage else none
    | .footnoteReference => some .footnoteTitle
    | _ => none

/-- Options agree on what the nodes at some points show. -/
def Options.AgreeOn (o o' : Options) (ms : List Point) : Prop :=
  ∀ n, .construct n ∈ ms → ∀ f, n.option? = some f → o'.setting f = o.setting f

namespace Options

variable {o o' : Options} {ms ms' : List Point}

theorem AgreeOn.of_eq (h : o' = o) : o.AgreeOn o' ms :=
  fun _ _ _ _ => by rw [h]

theorem AgreeOn.mono (h : o.AgreeOn o' ms) (hsubset : ms' ⊆ ms) : o.AgreeOn o' ms' :=
  fun n hn => h n (hsubset hn)

theorem AgreeOn.contents {ns : List Node} {inList : Bool}
    (h : o.AgreeOn o' (listPoints inList ns ++ [.joined ns])) :
    o.AgreeOn o' (listPoints inList ns) :=
  h.mono (List.subset_append_left _ _)

section

variable {kind : Kind} {ps : List (String × Property)} {cs : List Node}
  (h : ∀ f, (Node.mk kind ps cs).option? = some f → o'.setting f = o.setting f)

include h

theorem leafPieces_eq : leafPieces o' kind ps = leafPieces o kind ps := by
  cases kind
  case lineBreak =>
      have hplaceholder : o'.lineBreak = o.lineBreak := Setting.text.inj (h .lineBreak rfl)
      rw [leafPieces, leafPieces, hplaceholder]
  all_goals rfl

theorem codePieces_eq : codePieces o' kind ps = codePieces o kind ps := by
  have hattributes : codeAttributes o' kind ps = codeAttributes o kind ps := by
    cases kind
    case srcBlock =>
        unfold codeAttributes
        cases hlanguage : givenIn "language" ps with
        | none => simp only
        | some v =>
            have hgiven : (Node.mk .srcBlock ps cs).option? = some .codeLanguage := by
              simp [Node.option?, hlanguage]
            have hswitch : o'.codeLanguage = o.codeLanguage :=
              Setting.bool.inj (h .codeLanguage hgiven)
            rw [hswitch]
    all_goals rfl
  rw [codePieces, codePieces, hattributes]

end

end Options

/-! ### Pieces -/

section

variable {env env' : Environment} {trim : List Piece → List Piece}

/-- The pieces of a tree depend on the levels of headlines and on the options that its nodes
show. -/
theorem pieces_agree (hlevel : writtenLevel env'.scope? = writtenLevel env.scope?) : TreeCases
    (fun n => ∀ inList, env.options.AgreeOn env'.options (n.points inList) →
      n.pieces env' trim inList = n.pieces env trim inList)
    (fun ns => ∀ inList, env.options.AgreeOn env'.options (listPoints inList ns) →
      listPieces env' trim inList ns = listPieces env trim inList ns)
    (fun ps => ∀ name, env.options.AgreeOn env'.options (passagePoints name ps) →
      passagePieces env' trim name ps = passagePieces env trim name ps) where
  node kind ps cs hps hcs inList h := by
    have hself := h (.mk kind ps cs) (construct_mem_points _ inList)
    rw [Node.points] at h
    rw [Node.pieces, Node.pieces]
    cases hrole : kind.role with
    | container =>
        simp only [hrole] at h
        have hbelow := h.mono (List.subset_cons_self _ _)
        have hcontents := (hbelow.mono (List.subset_append_right _ _)).contents
        dsimp only
        rw [hcs false hcontents]
        split
        · rename_i hterm
          rw [if_pos hterm] at hbelow
          rw [hps "tag" (hbelow.mono (List.subset_append_left _ _))]
        · rfl
    | leaf => exact Options.leafPieces_eq hself
    | codeBlock => exact Options.codePieces_eq hself
    | headline =>
        simp only [hrole] at h
        dsimp only
        split
        · rfl
        · rename_i hshown
          rw [if_neg hshown] at h
          have hbelow := h.mono (List.subset_cons_self _ _)
          have hrest := hbelow.mono (List.subset_append_right _ _)
          have hcontents := (hrest.mono (List.subset_cons_self _ _)).contents
          rw [hps "title" (hbelow.mono (List.subset_append_left _ _)), hcs false hcontents, hlevel]
    | list =>
        simp only [hrole] at h
        dsimp only
        rw [hcs _ (h.mono (List.subset_cons_self _ _)).contents]
    | link =>
        simp only [hrole] at h
        dsimp only
        have hbelow := h.mono (List.subset_cons_self _ _)
        rw [hcs false (hbelow.mono (List.subset_append_left _ _)).contents]
    | reference => rfl
    | refused => rfl
  nil _ _ := rfl
  cons n ns hn hns inList h := by
    rw [listPoints] at h
    have hrest := h.mono (List.subset_append_right _ _)
    rw [listPieces, listPieces, hn inList (h.mono (List.subset_append_left _ _)),
      hns inList (hrest.mono (List.subset_cons_self _ _))]
  bare _ _ := rfl
  value name' v ps hps name h := by
    rw [passagePoints] at h
    rw [passagePieces, passagePieces]
    split
    · rfl
    · rename_i hother
      rw [if_neg hother] at h
      exact hps name h
  nodes name' ns ps hns hps name h := by
    rw [passagePoints] at h
    rw [passagePieces, passagePieces]
    split
    · rename_i hread
      rw [if_pos hread] at h
      exact hns false h.contents
    · rename_i hother
      rw [if_neg hother] at h
      exact hps name h

/-- The pieces of the list of footnotes depend on its title and on the pieces of the definitions. -/
theorem sectionPieces_congr {s s' : Scope} {labels : List String}
    (htitle : labels ≠ [] → env'.options.footnoteTitle = env.options.footnoteTitle)
    (h : ∀ label ∈ labels, notePieces env' trim s' label = notePieces env trim s label) :
    sectionPieces env' trim s' labels = sectionPieces env trim s labels := by
  have hlines : (labels.zipIdx.map fun l => linePieces env' trim s' l.1 l.2) =
      labels.zipIdx.map fun l => linePieces env trim s l.1 l.2 := by
    refine List.map_congr_left fun l hl => ?_
    rw [linePieces, linePieces, h l.1 (List.fst_mem_of_mem_zipIdx hl)]
  rw [sectionPieces, sectionPieces, hlines]
  split
  · rfl
  · rename_i hlabels
    rw [htitle hlabels]

end

/-! ### Documents -/

section

variable {o o' : Options} {root : Node}

/-- A label that is numbered has a reference, which shows the title over the footnotes. -/
theorem exists_reference_of_mem_notes {s : Scope} {label : String} (h : label ∈ s.notes root) :
    ∃ n, .construct n ∈ s.documentPoints root ∧ n.option? = some .footnoteTitle := by
  rw [s.notes_eq, ← s.numberedIn_documentPoints] at h
  obtain ⟨m, hm, hnumbered⟩ := List.mem_filterMap.1 ((mem_addLabels.1 h).resolve_left nofun)
  cases m with
  | construct n =>
      obtain ⟨kind, ps, cs⟩ := n
      simp only [Point.numbered?, Node.numbered?, Option.ite_none_right_eq_some] at hnumbered
      obtain ⟨⟨rfl, -⟩, -⟩ := hnumbered
      exact ⟨_, hm, rfl⟩
  | _ => cases hnumbered

/-- The pieces of a document depend on the options that its points show. -/
theorem outputPieces_agree
    (h : o.AgreeOn o' ((Scope.ofDocument root).documentPoints root)) :
    outputPieces o' root = outputPieces o root := by
  let s : Scope := .ofDocument root
  have hpieces := @pieces_agree (passEnvironment o root) (passEnvironment o' root) trimPieces rfl
  have hbody : root.points false ⊆ s.documentPoints root :=
    fun m hm => by simp [Scope.documentPoints, hm]
  have htitle : s.notes root ≠ [] → o'.footnoteTitle = o.footnoteTitle := by
    intro hnotes
    obtain ⟨label, hlabel⟩ := List.exists_mem_of_ne_nil _ hnotes
    obtain ⟨n, hn, hshows⟩ := exists_reference_of_mem_notes hlabel
    exact Setting.text.inj (h n hn .footnoteTitle hshows)
  have hnotes : ∀ label ∈ s.notes root, notePieces (passEnvironment o' root) trimPieces s label =
      notePieces (passEnvironment o root) trimPieces s label := by
    intro label hlabel
    have hpoints := s.notePoints_subset hlabel
    unfold Scope.notePoints at hpoints
    unfold notePieces
    split
    · rename_i d hd
      rw [hd] at hpoints
      rw [hpieces.holds_nodes d.children false (h.mono hpoints).contents]
    · rfl
  have hsection : sectionPieces (passEnvironment o' root) trimPieces s (s.notes root) =
      sectionPieces (passEnvironment o root) trimPieces s (s.notes root) :=
    sectionPieces_congr htitle hnotes
  rw [outputPieces, outputPieces, documentPieces, documentPieces, hsection,
    hpieces.holds root false (h.mono hbody)]

/-- The progress of a pass is that of a run through the points of its document. -/
theorem document_progress (o : Options) (root : Node) :
    ((wholePass (passEnvironment o root) root).runFrom {}).2 =
      (proceed (.ofDocument o root) ((Scope.ofDocument root).documentPoints root) {}).2 := by
  have ht := trims_passEnvironment o root
  rcases h : proceed (.ofDocument o root) ((Scope.ofDocument root).documentPoints root) {}
    with ⟨e | e, q⟩
  · rw [(document_run_of_none ht rfl h).2]
  · rw [document_run_of_abort ht rfl h]

/-- A block of source code whose language cannot be shown. -/
def Node.HasLongLanguage (n : Node) : Prop :=
  n.kind = .srcBlock ∧ isShowableIn "language" n.properties = false

/-- Such a language counts as given, so the node shows the switch for languages. -/
theorem Node.option?_of_longLanguage {n : Node} (h : n.HasLongLanguage) :
    n.option? = some .codeLanguage := by
  obtain ⟨kind, ps, cs⟩ := n
  obtain ⟨rfl, hlong⟩ := h
  cases hgiven : givenIn "language" ps with
  | some v => simp [Node.option?, hgiven]
  | none =>
      rw [← givenIn_isShowable, Node.properties, hgiven] at hlong
      cases hlong

/-- What a point checks depends on the switch for languages only at a language that cannot be
shown. -/
theorem Point.abort?_languages (scope? : Option Scope) (m : Point) :
    m.abort? ⟨true, scope?⟩ = m.abort? ⟨false, scope?⟩ ∨
      m.abort? ⟨true, scope?⟩ = some (.misfit .longInteger) ∧
        ∃ n, m = .construct n ∧ n.HasLongLanguage := by
  cases m with
  | construct n =>
      obtain ⟨kind, ps, cs⟩ := n
      simp only [Point.abort?, constructAbort?]
      cases hrole : kind.role <;> try exact .inl rfl
      -- Blocks of code are the ones that ask for the switch, and of these blocks of source code.
      by_cases hkind : kind = .srcBlock
      · subst hkind
        cases hshowable : isShowableIn "language" ps with
        | true => exact .inl (by simp [languageAbort?, hshowable])
        | false =>
            cases hcode : misfitOf (codeOf .srcBlock ps) with
            | some e => exact .inl rfl
            | none =>
                exact .inr ⟨by simp [languageAbort?, hshowable, showing], _, rfl, rfl, hshowable⟩
      · refine .inl ?_
        cases kind <;> first | rfl | exact absurd rfl hkind
  | _ => exact .inl rfl

/-- So does a run through a list of points. -/
theorem proceed_languages (scope? : Option Scope) (ms : List Point) (p : Progress) :
    proceed ⟨true, scope?⟩ ms p = proceed ⟨false, scope?⟩ ms p ∨
      (proceed ⟨true, scope?⟩ ms p).1 = some (.misfit .longInteger) ∧
        ∃ n, .construct n ∈ ms ∧ n.HasLongLanguage := by
  induction ms generalizing p with
  | nil => exact .inl rfl
  | cons m ms ih =>
      simp only [proceed]
      rcases m.abort?_languages scope? with hsame | ⟨hlong, n, rfl, hn⟩
      · rw [hsame]
        cases m.abort? ⟨false, scope?⟩ with
        | some e => exact .inl rfl
        | none =>
            rcases ih (m.advance scope? p) with hsame | ⟨hrun, n, hn, hlong⟩
            · exact .inl hsame
            · exact .inr ⟨hrun, n, .tail _ hn, hlong⟩
      · rw [hlong]
        exact .inr ⟨rfl, n, .head _, hn⟩

/-- The runs of two passes are the same, unless the one that writes languages comes to a language
that cannot be shown. -/
theorem proceed_options (o o' : Options) (root : Node) :
    proceed (.ofDocument o' root) ((Scope.ofDocument root).documentPoints root) {} =
        proceed (.ofDocument o root) ((Scope.ofDocument root).documentPoints root) {} ∨
      o'.codeLanguage ≠ o.codeLanguage ∧
        (∃ n, (Scope.ofDocument root).Reached root n ∧ n.HasLongLanguage) ∧
        ∀ o'' : Options, o''.codeLanguage = true →
          (renderDocument o'' root).1 = .error (.misfit .longInteger) := by
  by_cases hswitch : o'.codeLanguage = o.codeLanguage
  · exact .inl (by rw [Premises.ofDocument, Premises.ofDocument, hswitch])
  · rcases proceed_languages (some (.ofDocument root))
        ((Scope.ofDocument root).documentPoints root) {} with hsame | ⟨hlong, n, hn, hlanguage⟩
    · refine .inl ?_
      rw [Premises.ofDocument, Premises.ofDocument]
      cases hon : o.codeLanguage <;> cases hon' : o'.codeLanguage <;> simp_all
    · refine .inr ⟨hswitch, ⟨n, Scope.reached_iff.1.2 hn, hlanguage⟩, fun o'' hon => ?_⟩
      rw [renderDocument_error_iff, ← proceed_fst _ {}, Premises.ofDocument, hon, hlong]

/-- Passes whose runs are the same fail for the same reason. -/
theorem renderDocument_error_congr
    (h : proceed (.ofDocument o' root) ((Scope.ofDocument root).documentPoints root) {} =
      proceed (.ofDocument o root) ((Scope.ofDocument root).documentPoints root) {}) (e : Abort) :
    (renderDocument o' root).1 = .error e ↔ (renderDocument o root).1 = .error e := by
  rw [renderDocument_error_iff, renderDocument_error_iff, ← proceed_fst _ {}, ← proceed_fst _ {}, h]

/-- A pass succeeds if it does not fail. -/
theorem renderDocument_ok_iff (o : Options) (root : Node) :
    (∃ text, (renderDocument o root).1 = .ok text) ↔
      ∀ e, (renderDocument o root).1 ≠ .error e := by
  cases (renderDocument o root).1 with
  | ok text => exact ⟨fun _ => nofun, fun _ => ⟨text, rfl⟩⟩
  | error e => exact ⟨nofun, fun hnone => absurd rfl (hnone e)⟩

/-- **Options only touch their own constructs.**  Passes with different options fail for the same
reason or both succeed, and they give the same numbers, unless only one of them writes languages and
fails because it comes to a language that cannot be shown.  They write the same if the options agree
on what is shown of them by the nodes that the pass reaches. -/
theorem renderDocument_options (o o' : Options) (root : Node) :
    (((∃ text, (renderDocument o' root).1 = .ok text) ↔
          ∃ text, (renderDocument o root).1 = .ok text) ∧
        (∀ e, (renderDocument o' root).1 = .error e ↔ (renderDocument o root).1 = .error e) ∧
        numbersIn o' root = numbersIn o root ∨
      o'.codeLanguage ≠ o.codeLanguage ∧
        (∃ n, (Scope.ofDocument root).Reached root n ∧ n.HasLongLanguage) ∧
        ∀ o'' : Options, o''.codeLanguage = true →
          (renderDocument o'' root).1 = .error (.misfit .longInteger)) ∧
      ((∀ n, (Scope.ofDocument root).Reached root n →
          ∀ f, n.option? = some f → o'.setting f = o.setting f) →
        (renderDocument o' root).1 = (renderDocument o root).1) := by
  have hsucceeds : (∀ e, (renderDocument o' root).1 = .error e ↔
      (renderDocument o root).1 = .error e) → ((∃ text, (renderDocument o' root).1 = .ok text) ↔
        ∃ text, (renderDocument o root).1 = .ok text) := by
    intro herror
    rw [renderDocument_ok_iff, renderDocument_ok_iff]
    exact forall_congr' fun e => not_congr (herror e)
  refine ⟨?_, fun hreached => ?_⟩
  · refine (proceed_options o o' root).imp_left fun hsame => ?_
    have herror := renderDocument_error_congr hsame
    exact ⟨hsucceeds herror, herror,
      by rw [numbersIn, numbersIn, document_progress, document_progress, hsame]⟩
  · -- Options that agree on a language that cannot be shown agree on the switch.
    have hsame := (proceed_options o o' root).resolve_right fun ⟨hswitch, ⟨n, hn, hlong⟩, _⟩ =>
      hswitch (Setting.bool.inj (hreached n hn .codeLanguage (Node.option?_of_longLanguage hlong)))
    have herror := renderDocument_error_congr hsame
    cases hresult : (renderDocument o root).1 with
    | error e => exact (herror e).2 hresult
    | ok text =>
        have hagree : o.AgreeOn o' ((Scope.ofDocument root).documentPoints root) :=
          fun n hn => hreached n (Scope.reached_iff.1.2 hn)
        obtain ⟨text', htext'⟩ := (hsucceeds herror).2 ⟨text, hresult⟩
        rw [htext', renderDocument_ok htext', outputPieces_agree hagree,
          ← renderDocument_ok hresult]

end

/-- A block of source code whose language has too many digits to be shown: the pass fails if
languages are written, and succeeds if they are not. -/
theorem renderDocument_longLanguage :
    let root : Node := .mk .srcBlock [("language", .value (.int (Int.pow 10 4300)))] []
    (renderDocument { codeLanguage := true } root).1 = .error (.misfit .longInteger) ∧
      (renderDocument { codeLanguage := false } root).1.toOption = some "\n[code]\n[/code]\n" :=
  ⟨failsLong_iff.1 (by decide +kernel), by decide +kernel⟩

/-- A document whose constructs that show options are not reached: a block of source code in a
headline that is left out, and a line break and a reference in a definition that nothing refers
to. -/
theorem renderDocument_options_unreached :
    let text (s : String) : Property := .value (.text s)
    let hidden : Node := .mk .headline [("footnote_section_p", .value (.bool true))]
      [.mk .srcBlock [("language", text "c")] []]
    let note : Node := .mk .footnoteDefinition [("label", text "n")]
      [.mk .lineBreak [] [], .mk .footnoteReference [("label", text "n")] []]
    let root : Node := .mk .orgData [] [hidden, note, .mk .plainText [("value", text "a")] []]
    let o : Options := { footnoteTitle := "", codeLanguage := true, lineBreak := "" }
    (∀ n, (Scope.ofDocument root).Reached root n →
        ∀ f, n.option? = some f → o.setting f = Options.setting {} f) ∧
      (renderDocument {} root).1.toOption = some "a" ∧
      (renderDocument o root).1 = (renderDocument {} root).1 := by
  intro text hidden note root o
  have hnone : (((Scope.ofDocument root).documentPoints root).filterMap Point.node?).all
      (fun n => n.option?.isNone) = true := by decide +kernel
  have hreached : ∀ n, (Scope.ofDocument root).Reached root n →
      ∀ f, n.option? = some f → o.setting f = Options.setting {} f := by
    intro n hn f hf
    have hpoint := Scope.reached_iff.1.1 hn
    have hshows := List.all_eq_true.1 hnone n (List.mem_filterMap.2 ⟨_, hpoint, rfl⟩)
    simp [hf] at hshows
  exact ⟨hreached, by decide +kernel, (renderDocument_options {} o root).2 hreached⟩

end ForumMarkup
