import ForumMarkup.Proofs.Pass.Document
/-
**Trimming takes away nothing but blank characters.**

The text of quotes, lists, list items and footnotes is trimmed after it has been put together, and
rows of tables and links look at whether the text inside them is empty, which may have been trimmed.
A pass that does not trim at all is compared with one that does.  The two go through the same
points, so that they end alike and number alike, and their pieces only differ in blank characters.

Main definitions:

* `ForumMarkup.Environment.untrimmed` — the environment of a pass that does not trim;
* `ForumMarkup.solid` — a text without its blank characters;
* `ForumMarkup.Alike` — pieces that differ in blank characters only, and are empty alike.

Main results:

* `ForumMarkup.solid_written` — the solid text of pieces depends on their solid pieces only;
* `ForumMarkup.alike_pieces` — the pieces of a tree with and without trimming are alike;
* `ForumMarkup.render_untrimmed` — **a pass that trims and one that does not agree on everything but
  blank characters**.
-/

set_option autoImplicit false

namespace ForumMarkup

/-- The same environment without trimming. -/
def Environment.untrimmed (env : Environment) : Environment :=
  { env with trim := id }

/-- A text without its blank characters. -/
def solid (s : String) : String :=
  String.ofList (s.toList.filter fun c => !Text.isBlank c)

/-! ### Solid pieces -/

/-- Blank characters of a text that are no pieces of their own stand inside other pieces. -/
theorem filter_flatMap_chars (numbers : List String) (ps : List Piece) :
    (ps.flatMap (Piece.chars numbers)).filter (fun c => !Text.isBlank c) =
      ((solidPieces ps).flatMap (Piece.chars numbers)).filter fun c => !Text.isBlank c := by
  induction ps with
  | nil => rfl
  | cons p ps ih =>
      -- A solid piece can hold blank characters, which are filtered out on both sides.
      cases hp : p.isBlank with
      | false => simpa [solidPieces, hp] using ih
      | true =>
          cases p with
          | char c =>
              have hc : Text.isBlank c = true := hp
              simpa [solidPieces, Piece.chars, hp, hc] using ih
          | _ => cases hp

/-- The solid text of pieces depends on their solid pieces only. -/
theorem solid_written (numbers : List String) (ps : List Piece) :
    solid (written numbers ps) = solid (written numbers (solidPieces ps)) := by
  rw [solid, solid, toList_written, toList_written, filter_flatMap_chars]

/-! ### Pieces that are alike -/

/-- Pieces that differ in blank characters only, and are empty alike. -/
structure Alike (ps qs : List Piece) : Prop where
  empty : ps = [] ↔ qs = []
  solid : solidPieces ps = solidPieces qs

namespace Alike

variable {ps qs ps' qs' : List Piece}

theorem refl (ps : List Piece) : Alike ps ps := ⟨Iff.rfl, rfl⟩

theorem append (h : Alike ps qs) (h' : Alike ps' qs') : Alike (ps ++ ps') (qs ++ qs') := by
  refine ⟨?_, ?_⟩
  · simp [h.empty, h'.empty]
  · rw [solidPieces_append, solidPieces_append, h.solid, h'.solid]

/-- Pieces that follow the same piece are not empty, so only the solid ones count. -/
theorem cons (p : Piece) (h : solidPieces ps = solidPieces qs) : Alike (p :: ps) (p :: qs) := by
  refine ⟨by simp, ?_⟩
  rw [solidPieces_cons, h, ← solidPieces_cons]

theorem wrapped (tag : Tag) (rest : String) (h : solidPieces ps = solidPieces qs) :
    Alike (wrapped tag rest ps) (ForumMarkup.wrapped tag rest qs) :=
  cons _ (by rw [solidPieces_append, h, ← solidPieces_append])

theorem asBlockPieces (h : Alike ps qs) :
    solidPieces (asBlockPieces (trimPieces ps)) = solidPieces (ForumMarkup.asBlockPieces qs) := by
  simp only [ForumMarkup.asBlockPieces]
  rw [solidPieces_cons, solidPieces_append, solidPieces_trimPieces, h.solid, ← solidPieces_append,
    ← solidPieces_cons]

end Alike

/-! ### Trees -/

variable (env : Environment)

theorem alike_dressPieces (kind : Kind) {term term' inner inner' : List Piece}
    (hterm : Alike term term') (hinner : Alike inner inner') :
    Alike (dressPieces trimPieces kind term inner) (dressPieces id kind term' inner') := by
  cases kind
  case tableRow =>
      simp only [dressPieces]
      by_cases h : inner = []
      · rw [if_pos h, if_pos (hinner.empty.1 h)]
        exact .refl _
      -- This is where it matters that alike pieces are empty alike.
      · rw [if_neg h, if_neg fun h' => h (hinner.empty.2 h')]
        exact .wrapped _ _ hinner.solid
  case quoteBlock => exact .wrapped _ _ hinner.asBlockPieces
  case item =>
      refine .cons _ ?_
      rw [solidPieces_append, solidPieces_append, solidPieces_trimPieces, hterm.solid, hinner.solid,
        ← solidPieces_append, ← solidPieces_append]
      rfl
  all_goals first
    | exact hinner
    | exact .wrapped _ _ hinner.solid

theorem alike_plainListPieces (ps : List (String × Property)) {inner inner' : List Piece}
    (h : Alike inner inner') : Alike (plainListPieces trimPieces ps inner)
      (plainListPieces id ps inner') := by
  unfold plainListPieces
  split
  · exact .wrapped _ _ h.asBlockPieces
  · exact .wrapped _ _ h.asBlockPieces

theorem alike_linkPieces (ps : List (String × Property)) {inner inner' : List Piece}
    (h : Alike inner inner') : Alike (linkPieces ps inner) (linkPieces ps inner') := by
  unfold linkPieces
  split
  · by_cases hempty : inner = []
    · rw [if_pos hempty, if_pos (h.empty.1 hempty)]
      exact .refl _
    · rw [if_neg hempty, if_neg fun h' => hempty (h.empty.2 h')]
      exact .wrapped _ _ h.solid
  · exact h

/-- The pieces of a tree with and without trimming are alike.  Rows and links look at whether pieces
are empty, so this is part of what is shown of the pieces below them. -/
theorem alike_pieces : TreeCases
    (fun n => ∀ inList, Alike (n.pieces env trimPieces inList) (n.pieces env.untrimmed id inList))
    (fun ns => ∀ inList,
      Alike (listPieces env trimPieces inList ns) (listPieces env.untrimmed id inList ns))
    (fun ps => ∀ name,
      Alike (passagePieces env trimPieces name ps) (passagePieces env.untrimmed id name ps)) where
  node kind ps cs hps hcs := by
    intro inList
    rw [Node.pieces, Node.pieces]
    cases h : kind.role with
    | container =>
        refine alike_dressPieces kind ?_ (hcs false)
        split
        · exact (Alike.wrapped _ _ (hps "tag").solid).append (.refl _)
        · exact .refl _
    | headline =>
        dsimp only
        split
        · exact .refl _
        · refine Alike.append (.append (.wrapped _ _ ?_) (.refl _)) (hcs false)
          exact (Alike.wrapped _ _ ((Alike.refl _).append (hps "title")).solid).solid
    | list => exact alike_plainListPieces ps (hcs _)
    | link => exact alike_linkPieces ps (hcs false)
    | _ => exact .refl _
  nil := fun _ => .refl _
  cons n ns hn hns := fun inList => ((hn inList).append (.refl _)).append (hns inList)
  bare := fun _ => .refl _
  value name v ps hps := by
    intro sought
    rw [passagePieces, passagePieces]
    split
    · exact .refl _
    · exact hps sought
  nodes name ns ps hns hps := by
    intro sought
    rw [passagePieces, passagePieces]
    split
    · exact hns false
    · exact hps sought

/-! ### Documents -/

theorem solidPieces_notePieces (s : Scope) (label : String) :
    solidPieces (notePieces env trimPieces s label) =
      solidPieces (notePieces env.untrimmed id s label) := by
  unfold notePieces
  split
  · rw [solidPieces_trimPieces]
    exact ((alike_pieces env).holds_nodes _ false).solid
  · rfl

theorem solidPieces_documentPieces (s : Scope) (root : Node) :
    solidPieces (documentPieces env trimPieces s root) =
      solidPieces (documentPieces env.untrimmed id s root) := by
  have hlines : ∀ labels : List (String × Nat),
      (labels.map fun l => linePieces env trimPieces s l.1 l.2).map solidPieces =
        (labels.map fun l => linePieces env.untrimmed id s l.1 l.2).map solidPieces := by
    intro labels
    simp [linePieces, solidPieces_notePieces]
  have hintercalate : ∀ lines, solidPieces ((letters "\n").intercalate lines) =
      (solidPieces (letters "\n")).intercalate (lines.map solidPieces) :=
    map_intercalate rfl solidPieces_append _
  have hsection : ∀ labels, solidPieces (sectionPieces env trimPieces s labels) =
      solidPieces (sectionPieces env.untrimmed id s labels) := by
    intro labels
    unfold sectionPieces
    split
    · rfl
    · rw [solidPieces_append, solidPieces_append, hintercalate, hintercalate, hlines]
      rfl
  rw [documentPieces, documentPieces, solidPieces_append, solidPieces_append, hsection,
    solidPieces_append, solidPieces_append, ((alike_pieces env).holds root false).solid]

/-! ### Passes -/

/-- What is seen of a text when blank characters are not looked at: whether there is anything, and
what else there is. -/
def sight (s : String) : Bool × String :=
  (s.isEmpty, solid s)

theorem Alike.sight_written {ps qs : List Piece} (h : Alike ps qs) (numbers : List String) :
    sight (written numbers ps) = sight (written numbers qs) := by
  have hempty : (written numbers ps).isEmpty = (written numbers qs).isEmpty := by
    rw [Bool.eq_iff_iff, String.isEmpty_iff, String.isEmpty_iff, written_eq_empty_iff,
      written_eq_empty_iff, h.empty]
  rw [sight, sight, hempty, solid_written, h.solid, ← solid_written]

theorem trims_untrimmed : Trims env.untrimmed id :=
  fun _ _ => rfl

variable {env}

/-- The text of a list of nodes, as it stands anywhere in a pass, with and without trimming. -/
theorem contents_untrimmed (ht : Trims env trimPieces) (ns : List Node) {p : Progress}
    (hp : p.Sound env.scope?) :
    ((contents env ns).runFrom p).1.map sight =
        ((contents env.untrimmed ns).runFrom p).1.map sight ∧
      ((contents env ns).runFrom p).2 = ((contents env.untrimmed ns).runFrom p).2 := by
  have htrimmed := contents_follow ht ns p
  have hplain : Follows env.premises (contents env.untrimmed ns) (contentPoints ns)
      (fun numbers => written numbers (listPieces env.untrimmed id false ns)) p :=
    contents_follow (trims_untrimmed env) ns p
  have halike := (alike_pieces env).holds_nodes ns false
  rcases h : proceed env.premises (contentPoints ns) p with ⟨e | e, q⟩
  · rw [htrimmed.run_of_none hp h List.prefix_rfl, hplain.run_of_none hp h List.prefix_rfl]
    exact ⟨congrArg Except.ok (halike.sight_written q.numbers), rfl⟩
  · rw [htrimmed.run_of_some hp h, hplain.run_of_some hp h]
    exact ⟨rfl, rfl⟩

/-- A pass over a document with and without trimming. -/
theorem document_untrimmed (ht : Trims env trimPieces) {s : Scope} (hs : env.scope? = some s)
    (root : Node) :
    ((wholePass env root).runFrom {}).1.map solid =
        ((wholePass env.untrimmed root).runFrom {}).1.map solid ∧
      ((wholePass env root).runFrom {}).2 = ((wholePass env.untrimmed root).runFrom {}).2 := by
  -- The points do not depend on trimming, so one run through them settles both passes.
  have hs' : env.untrimmed.scope? = some s := hs
  rcases h : proceed env.premises (s.documentPoints root) {} with ⟨e | e, q⟩
  · rw [(document_run_of_none ht hs h).2, (document_run_of_none (trims_untrimmed env) hs' h).2]
    refine ⟨congrArg Except.ok ?_, rfl⟩
    rw [solid_written, solidPieces_documentPieces, ← solid_written]
  · rw [document_run_of_abort ht hs h, document_run_of_abort (trims_untrimmed env) hs' h]
    exact ⟨rfl, rfl⟩

/-- **A pass that trims and one that does not agree on everything but blank characters.**  They fail
alike, or both succeed, with the same progress and with texts that are the same without their blank
characters.  At any depth and in any state of a pass, what rows and links ask of the text inside
them, whether it is empty, has the same answer in both. -/
theorem render_untrimmed (o : Options) (root : Node) :
    let env := passEnvironment o root
    let trimmed := (wholePass env root).runFrom {}
    let plain := (wholePass env.untrimmed root).runFrom {}
    (renderDocument o root).1 = trimmed.1 ∧
      trimmed.1.map solid = plain.1.map solid ∧ trimmed.2 = plain.2 ∧
      ∀ (ns : List Node) (p : Progress), p.Sound env.scope? →
        ((contents env ns).runFrom p).1.map String.isEmpty =
            ((contents env.untrimmed ns).runFrom p).1.map String.isEmpty ∧
          ((contents env ns).runFrom p).2 = ((contents env.untrimmed ns).runFrom p).2 := by
  intro env trimmed plain
  have ht : Trims env trimPieces := trims_passEnvironment o root
  have hdocument := document_untrimmed ht rfl root
  refine ⟨congrArg Prod.fst (renderDocument_eq o root), hdocument.1, hdocument.2, fun ns p hp => ?_⟩
  have hcontents := contents_untrimmed ht ns hp
  have hmap : ∀ r : Except Abort String, r.map String.isEmpty = (r.map sight).map Prod.fst := by
    intro r
    cases r <;> rfl
  rw [hmap, hmap, hcontents.1]
  exact ⟨rfl, hcontents.2⟩

/-- A row with an item in it whose text is blank. -/
theorem render_untrimmed_row :
    let cell := Node.mk .plainText [("value", .value (.text " "))] []
    let row := Node.mk .tableRow [] [.mk .item [] [cell]]
    let env := passEnvironment {} row
    ((contents env row.children).runFrom {}).1.map String.isEmpty =
      ((contents env.untrimmed row.children).runFrom {}).1.map String.isEmpty :=
  ((render_untrimmed {} (.mk .tableRow [] [.mk .item [] [.mk .plainText
    [("value", .value (.text " "))] []]])).2.2.2 _ {} (.empty _)).1

end ForumMarkup
