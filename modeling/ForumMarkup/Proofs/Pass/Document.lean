import ForumMarkup.Pass.Renderer
import ForumMarkup.Proofs.Pass.Fold
import ForumMarkup.Proofs.Pass.Notes
/-
**A whole pass.**

A pass over a document follows the points of its body and then those of the definitions that it
writes; when none of them ends it, its markup is the text of the pieces of the document.

Main definitions:

* `ForumMarkup.wholePass` — a pass from the look at the labels of its definitions on;
* `ForumMarkup.notePieces`, `ForumMarkup.linePieces`, `ForumMarkup.sectionPieces` — the pieces of a
  definition, of its line and of the list of footnotes;
* `ForumMarkup.documentPieces` — the pieces of a whole document;
* `ForumMarkup.passEnvironment`, `ForumMarkup.outputPieces` — what a pass on a renderer of its own
  knows and the pieces that it writes;
* `ForumMarkup.numbersIn` — the labels that it numbers.

Main results:

* `ForumMarkup.noteLines_follow`, `ForumMarkup.footnoteSection_follows` — the list of footnotes
  follows the points of the definitions, although it grows meanwhile;
* `ForumMarkup.document_follows` — **a pass follows the points of its document and writes its
  pieces**;
* `ForumMarkup.renderDocument_error_iff`, `ForumMarkup.renderDocument_ok` — the outcome of a pass on
  a renderer of its own.
-/

set_option autoImplicit false

namespace ForumMarkup

/-! ### The pieces of a document -/

section

variable (env : Environment) (trim : List Piece → List Piece) (s : Scope)

/-- The pieces of the text of a label's definition. -/
def notePieces (label : String) : List Piece :=
  match lookupEntry label s.definitions with
  | some d => trim (listPieces env trim false d.children)
  | none => []

/-- The pieces of the line of a label at a place of the list. -/
def linePieces (label : String) (place : Nat) : List Piece :=
  letters ("^" ++ toString (place + 1) ++ ": ") ++ notePieces env trim s label

/-- The pieces of the list of footnotes. -/
def sectionPieces (labels : List String) : List Piece :=
  if labels = [] then []
  else headlinePieces "" (letters env.options.footnoteTitle) ++
    (letters "\n").intercalate (labels.zipIdx.map fun l => linePieces env trim s l.1 l.2)

/-- The pieces of a document. -/
def documentPieces (root : Node) : List Piece :=
  (root.pieces env trim false ++ blankPieces root) ++ sectionPieces env trim s (s.notes root)

end

/-! ### The list of footnotes -/

theorem written_intercalate (numbers : List String) (sep : List Piece) (lines : List (List Piece)) :
    written numbers (sep.intercalate lines) =
      (written numbers sep).intercalate (lines.map (written numbers)) := by
  have hchars := map_intercalate (f := fun ps : List Piece => ps.flatMap (Piece.chars numbers)) rfl
    (fun _ _ => List.flatMap_append) sep lines
  rw [written_eq_iff, String.toList_intercalate, toList_written, List.map_map, hchars]
  simp [Function.comp_def]

/-- A computation may be replaced by one that runs alike. -/
theorem Follows.of_runFrom_eq {premises : Premises} {α : Type} {m m' : PassM α}
    {points : List Point} {value : List String → α} {p : Progress}
    (h : Follows premises m' points value p) (hm : m.runFrom p = m'.runFrom p) :
    Follows premises m points value p := by
  unfold Follows
  rwa [hm]

variable {env : Environment} {trim : List Piece → List Piece} {s : Scope}

theorem footnoteAt_run (hs : env.scope? = some s) (place : Nat) (p : Progress) :
    (footnoteAt env place).runFrom p =
      (.ok (FootnoteTable.at? { definitions := s.definitions, numbers := p.numbers } place),
        p) := by
  simp only [footnoteAt, Environment.scope, hs, pure_bind]
  rw [PassM.runFrom_bind_ok (PassM.runFrom_get p), PassM.runFrom_pure]

theorem footnoteSection_of_scope (hs : env.scope? = some s) : footnoteSection env =
    noteSection (footnoteAt env) (definitionText env) env.options.footnoteTitle
      s.definitions.length := by
  simp [footnoteSection, Environment.scope, hs]

theorem definitionText_follows (ht : Trims env trim) {label : String} {d : Node}
    (hd : lookupEntry label s.definitions = some d) (p : Progress) :
    Follows env.premises (definitionText env d) (s.notePoints label)
      (fun numbers => written numbers (notePieces env trim s label)) p := by
  have hpoints : s.notePoints label = contentPoints d.children := by simp [Scope.notePoints, hd]
  have hpieces : notePieces env trim s label = trim (listPieces env trim false d.children) := by
    simp [notePieces, hd]
  rw [hpoints, hpieces]
  exact ((contents_follow ht d.children p).map fun _ => rfl).congr fun numbers => ht numbers _

theorem noteLines_follow (ht : Trims env trim) (hs : env.scope? = some s) (bound place : Nat)
    (p : Progress) :
    Follows env.premises (noteLines (footnoteAt env) (definitionText env) bound place)
      ((s.noteOrder bound place p.numbers).flatMap s.notePoints)
      (fun numbers => ((s.noteOrder bound place p.numbers).zipIdx place).map fun l =>
        written numbers (linePieces env trim s l.1 l.2)) p := by
  -- The order of the definitions unfolds in step with the loop, from the numbers at each place.
  induction bound generalizing place p with
  | zero => exact Follows.pure []
  | succ bound ih =>
      intro hp
      have hrun := footnoteAt_run hs place p
      cases hlabel : p.numbers[place]? with
      | none =>
          have horder : s.noteOrder (bound + 1) place p.numbers = [] := s.noteOrder_of_none hlabel
          simp only [FootnoteTable.at?, hlabel] at hrun
          rw [horder, noteLines]
          exact (Follows.pure []).of_runFrom_eq (PassM.runFrom_bind_ok hrun) hp
      | some label =>
          have hdefined : s.defines label = true := hp s hs label (List.mem_of_getElem? hlabel)
          obtain ⟨d, hd⟩ := Option.isSome_iff_exists.1 hdefined
          have horder : s.noteOrder (bound + 1) place p.numbers = label ::
              s.noteOrder bound (place + 1) (addLabels p.numbers (s.noteLabels label)) := by
            simp only [Scope.noteOrder, hlabel]
          simp only [FootnoteTable.at?, hlabel, hd, Option.map_some] at hrun
          rw [horder, noteLines]
          refine (Follows.of_runFrom_eq ?_ (PassM.runFrom_bind_ok hrun)) hp
          have hrest : ∀ numbers q, proceed env.premises (s.notePoints label) p = (none, q) →
              Follows env.premises
                (do
                  let lines ← noteLines (footnoteAt env) (definitionText env) bound (place + 1)
                  return noteLine (place + 1) (written numbers (notePieces env trim s label)) ::
                    lines)
                ((s.noteOrder bound (place + 1)
                  (addLabels p.numbers (s.noteLabels label))).flatMap s.notePoints)
                (fun numbers' => written numbers (linePieces env trim s label place) ::
                  ((s.noteOrder bound (place + 1)
                    (addLabels p.numbers (s.noteLabels label))).zipIdx (place + 1)).map fun l =>
                      written numbers' (linePieces env trim s l.1 l.2)) q := by
            intro numbers q hq
            have hnumbers : q.numbers = addLabels p.numbers (s.noteLabels label) := by
              rw [proceed_numbers hq, show env.premises.scope? = some s from hs]
              rfl
            -- The loop goes on from numbers that are known without the text of the definition.
            have hlines := ih (place + 1) q
            rw [hnumbers] at hlines
            refine (hlines.map fun _ => rfl).congr fun numbers' => ?_
            simp [noteLine, linePieces]
          exact ((definitionText_follows ht hd p).bind hrest).congr fun _ => rfl

theorem footnoteSection_follows (ht : Trims env trim) (hs : env.scope? = some s) (p : Progress) :
    Follows env.premises (footnoteSection env)
      ((s.noteOrder s.definitions.length 0 p.numbers).flatMap s.notePoints)
      (fun numbers => written numbers
        (sectionPieces env trim s (s.noteOrder s.definitions.length 0 p.numbers))) p := by
  intro hp
  have hrun := footnoteAt_run hs 0 p
  rw [footnoteSection_of_scope hs, noteSection]
  cases hnumbers : p.numbers with
  | nil =>
      have horder : s.noteOrder s.definitions.length 0 [] = [] := s.noteOrder_of_none rfl
      simp only [FootnoteTable.at?, hnumbers, List.getElem?_nil] at hrun
      rw [horder]
      exact (Follows.pure "").of_runFrom_eq (PassM.runFrom_bind_ok hrun) hp
  | cons label labels =>
      have hdefined : s.defines label = true := hp s hs label (by simp [hnumbers])
      obtain ⟨d, hd⟩ := Option.isSome_iff_exists.1 hdefined
      -- The first label has a definition, so the bound allows for its line at least.
      have horder : s.noteOrder s.definitions.length 0 (label :: labels) ≠ [] := by
        have hpos : 0 < s.definitions.length := by
          have := List.length_pos_of_mem (mem_keys_of_lookupEntry hdefined)
          simpa using this
        obtain ⟨bound, hbound⟩ := Nat.exists_eq_succ_of_ne_zero (Nat.ne_of_gt hpos)
        simp [hbound, Scope.noteOrder]
      simp only [FootnoteTable.at?, hnumbers, List.getElem?_cons_zero, hd, Option.map_some] at hrun
      refine (Follows.of_runFrom_eq ?_ (PassM.runFrom_bind_ok hrun)) hp
      have hlines := noteLines_follow ht hs s.definitions.length 0 p
      rw [hnumbers] at hlines
      refine (hlines.map fun _ => rfl).congr fun numbers => ?_
      simp [sectionPieces, horder, written_headlinePieces, written_intercalate, Function.comp_def]

/-! ### The whole document -/

/-- A whole pass over a document: it does not begin unless the labels of the definitions can be
shown. -/
def wholePass (env : Environment) (root : Node) : PassM String := do
  PassM.settle (showing (FootnoteTable.canCollect root.preorder)) ()
  document env root

/-- A pass begins with the labels of all definitions. -/
theorem beginning_follows (env : Environment) (root : Node) (p : Progress) :
    Follows env.premises
      (do
        PassM.settle (showing (FootnoteTable.canCollect root.preorder)) ()
        PassM.note (.began root.kind)) [.beginning root] (fun _ => ()) p := by
  have habort : Point.abort? env.premises (.beginning root) =
      showing (FootnoteTable.canCollect root.preorder) := rfl
  cases hcollect : FootnoteTable.canCollect root.preorder with
  | false =>
      rw [hcollect] at habort
      exact Follows.of_abort [] _ habort rfl
  | true =>
      rw [hcollect] at habort
      exact Follows.of_point habort fun _ _ => rfl

/-- It ends with a look at the fragment of the root, which has to be a text. -/
theorem joined_follows (env : Environment) (root : Node) (ps : List Piece) (numbers : List String)
    (q : Progress) : Follows env.premises (PassM.ofMisfit (root.fragment numbers ps).text?)
      [.joined [root]] (fun _ => written numbers ps) q := by
  refine Follows.of_settle rfl rfl ?_
  cases hstray : root.stray? with
  | some v =>
      simp [Node.fragment_of_stray numbers hstray, Fragment.text?, Point.abort?, hstray,
        PassM.settle]
  | none =>
      simp [Node.fragment_of_none numbers hstray, Fragment.text?, Point.abort?, hstray,
        PassM.settle]

theorem document_follows (ht : Trims env trim) (hs : env.scope? = some s) (root : Node)
    {p : Progress} (hp : p.numbers = []) :
    Follows env.premises (wholePass env root) (s.documentPoints root)
      (fun numbers => written numbers (documentPieces env trim s root)) p := by
  have hdocument : wholePass env root = do
      (do
        PassM.settle (showing (FootnoteTable.canCollect root.preorder)) ()
        PassM.note (.began root.kind))
      let body ← transcode env root
      let notes ← footnoteSection env
      (do PassM.note (.listed (← get).numbers.length))
      let body ← PassM.ofMisfit body.text?
      return body ++ notes := by
    simp only [wholePass, document, bind_assoc]
  have hpoints : s.documentPoints root = [.beginning root] ++
      ((root.points false ++ [.blanks root]) ++
        ((s.notes root).flatMap s.notePoints ++ ([.listed] ++ [.joined [root]]))) := by
    simp [Scope.documentPoints]
  have hlisted : ∀ q, Follows env.premises
      (do PassM.note (.listed (← get).numbers.length)) [.listed] (fun _ => ()) q :=
    fun q => Follows.of_point rfl fun _ _ => rfl
  -- The order of the footnotes is fixed when the body is over.
  have hnotes : ∀ q q', proceed env.premises [.beginning root] p = (none, q) →
      proceed env.premises (root.points false ++ [.blanks root]) q = (none, q') →
      s.noteOrder s.definitions.length 0 q'.numbers = s.notes root := by
    intro q q' hq hq'
    have hnobegan : numberedIn (some s) [.beginning root] = [] := rfl
    have hnoblanks : numberedIn (some s) [.blanks root] = [] := rfl
    have hscope : env.premises.scope? = some s := hs
    rw [proceed_numbers hq', proceed_numbers hq, hscope, hp, hnobegan, numberedIn_append,
      hnoblanks, List.append_nil]
    rfl
  have hnoted : ∀ q, s.noteOrder s.definitions.length 0 q.numbers = s.notes root →
      Follows env.premises (footnoteSection env) ((s.notes root).flatMap s.notePoints)
        (fun numbers => written numbers (sectionPieces env trim s (s.notes root))) q := by
    intro q hq
    rw [← hq]
    exact footnoteSection_follows ht hs q
  rw [hdocument, hpoints]
  exact ((beginning_follows env root p).bind fun _ q hq =>
    (transcode_follows ht root q).bind fun numbers q' hq' =>
      (hnoted q' (hnotes q q' hq hq')).bind fun _ q'' _ => (hlisted q'').bind fun _ q''' _ =>
        (joined_follows env root _ numbers q''').map fun _ => rfl).congr fun numbers =>
          written_append numbers _ _

theorem Progress.Sound.empty (scope? : Option Scope) : Progress.Sound scope? {} :=
  fun _ _ _ hl => nomatch hl

/-- A pass that comes to a point that ends it ends there. -/
theorem document_run_of_abort (ht : Trims env trim) (hs : env.scope? = some s) {root : Node}
    {e : Abort} {q : Progress} (h : proceed env.premises (s.documentPoints root) {} = (some e, q)) :
    (wholePass env root).runFrom {} = (.error e, q) :=
  (document_follows ht hs root rfl).run_of_some (.empty _) h

/-- A pass that comes to no such point writes the pieces of its document, and the footnotes are
numbered in the order of their list. -/
theorem document_run_of_none (ht : Trims env trim) (hs : env.scope? = some s) {root : Node}
    {q : Progress} (h : proceed env.premises (s.documentPoints root) {} = (none, q)) :
    q.numbers = s.notes root ∧ (wholePass env root).runFrom {} =
      (.ok (written (s.notes root) (documentPieces env trim s root)), q) := by
  have hscope : env.premises.scope? = some s := hs
  have hnumbers : q.numbers = s.notes root := by
    rw [proceed_numbers h, hscope, s.numberedIn_documentPoints, s.notes_eq]
  have hnumbered : q.numbers <+: s.notes root := hnumbers ▸ List.prefix_rfl
  exact ⟨hnumbers, (document_follows ht hs root rfl).run_of_none (.empty _) h hnumbered⟩

/-- A pass that does not fail has begun. -/
theorem wholePass_of_canCollect {env : Environment} {root : Node}
    (h : FootnoteTable.canCollect root.preorder = true) :
    wholePass env root = document env root := by
  rw [wholePass, h]
  rfl

theorem wholePass_congr {env env' : Environment} {root root' : Node}
    (hcollect : FootnoteTable.canCollect root'.preorder = FootnoteTable.canCollect root.preorder)
    (hdocument : document env' root' = document env root) :
    wholePass env' root' = wholePass env root := by
  rw [wholePass, wholePass, hcollect, hdocument]

/-! ### A renderer of its own -/

/-- What the computations of a pass over a document know. -/
def passEnvironment (o : Options) (root : Node) : Environment :=
  { options := o, scope? := some (.ofDocument root) }

/-- The labels that a pass over a document numbers, in the order of the numbers. -/
def numbersIn (o : Options) (root : Node) : List String :=
  ((wholePass (passEnvironment o root) root).runFrom {}).2.numbers

theorem renderDocument_eq (o : Options) (root : Node) :
    renderDocument o root =
      (((wholePass (passEnvironment o root) root).runFrom {}).1,
        ((wholePass (passEnvironment o root) root).runFrom {}).2.record) := by
  cases hcollect : FootnoteTable.canCollect root.preorder with
  | true =>
      rw [wholePass_of_canCollect hcollect]
      simp only [renderDocument, Renderer.render, Renderer.start, Scope.survey, hcollect, if_true]
      rfl
  | false =>
      simp only [renderDocument, Renderer.render, Renderer.start, Scope.survey, hcollect, wholePass,
        Bool.false_eq_true, if_false]
      rfl

theorem trims_passEnvironment (o : Options) (root : Node) :
    Trims (passEnvironment o root) trimPieces :=
  trims_trimPieces o _

/-- The pieces of a document under some options. -/
def outputPieces (o : Options) (root : Node) : List Piece :=
  documentPieces (passEnvironment o root) trimPieces (.ofDocument root) root

/-- A pass fails exactly at the first point that ends it. -/
theorem renderDocument_error_iff (o : Options) (root : Node) (e : Abort) :
    (renderDocument o root).1 = .error e ↔
      ((Scope.ofDocument root).documentPoints root).findSome?
        (Point.abort? (.ofDocument o root)) = some e := by
  have hs : (passEnvironment o root).scope? = some (.ofDocument root) := rfl
  have ht := trims_passEnvironment o root
  rw [renderDocument_eq, ← proceed_fst _ {}]
  rcases h : proceed (.ofDocument o root) ((Scope.ofDocument root).documentPoints root) {}
    with ⟨e' | e', q⟩
  · simp [(document_run_of_none ht hs h).2]
  · simp [document_run_of_abort ht hs h]

/-- A pass that comes to a point that ends it fails as the point says. -/
theorem renderDocument_error_of_reached (o : Options) {root : Node} {before after : List Point}
    {m : Point} {e : Abort} (hpoints : (Scope.ofDocument root).documentPoints root =
      before ++ m :: after)
    (hbefore : ∀ m' ∈ before, m'.abort? (.ofDocument o root) = none)
    (hm : m.abort? (.ofDocument o root) = some e) : (renderDocument o root).1 = .error e := by
  rw [renderDocument_error_iff, hpoints, List.findSome?_append,
    List.findSome?_eq_none_iff.2 hbefore, Option.none_or, List.findSome?_cons, hm]

/-- No point ends a pass that succeeds. -/
theorem abort?_of_renderDocument_ok {o : Options} {root : Node} {text : String}
    (h : (renderDocument o root).1 = .ok text) :
    ∀ m ∈ (Scope.ofDocument root).documentPoints root, m.abort? (.ofDocument o root) = none := by
  refine List.findSome?_eq_none_iff.1 ?_
  cases hfirst : ((Scope.ofDocument root).documentPoints root).findSome?
      (Point.abort? (.ofDocument o root)) with
  | none => rfl
  | some e =>
      rw [(renderDocument_error_iff o root e).2 hfirst] at h
      cases h

/-- A pass that succeeds writes the pieces of its document. -/
theorem renderDocument_ok {o : Options} {root : Node} {text : String}
    (h : (renderDocument o root).1 = .ok text) :
    text = written ((Scope.ofDocument root).notes root) (outputPieces o root) := by
  have hs : (passEnvironment o root).scope? = some (.ofDocument root) := rfl
  have ht := trims_passEnvironment o root
  rw [renderDocument_eq] at h
  rcases hp : proceed (.ofDocument o root) ((Scope.ofDocument root).documentPoints root) {}
    with ⟨e | e, q⟩
  · rw [(document_run_of_none ht hs hp).2] at h
    exact (Except.ok.inj h).symm
  · rw [document_run_of_abort ht hs hp] at h
    cases h

/-! ### Failing at what cannot be shown -/

/-- Whether something has failed because it cannot be shown. -/
def failsLong {α : Type} : Except Abort α → Bool
  | .error (.misfit .longInteger) => true
  | _ => false

theorem failsLong_iff {α : Type} {outcome : Except Abort α} :
    failsLong outcome = true ↔ outcome = .error (.misfit .longInteger) := by
  constructor
  · intro h
    unfold failsLong at h
    split at h
    · rfl
    · cases h
  · rintro rfl
    rfl

end ForumMarkup
