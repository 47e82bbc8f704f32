import ForumMarkup.Proofs.Pass.Document
/-
**What a node writes as a whole.**

Two sorts of pieces come from a single node each: the mark of a footnote, and a verbatim text.  They
are the *atoms* of markup.  Tags are put around them, text stands between them and blanks are
trimmed beside them, but none of this touches them.  So the atoms in the markup of a document are
those of the nodes that the pass visits, in the order of the visits.

Main definitions:

* `ForumMarkup.Piece.atom`, `ForumMarkup.atoms` — the atoms among pieces, in order;
* `ForumMarkup.Point.atoms` — the atoms of the node that is checked at a point.

Main results:

* `ForumMarkup.atoms_trimPieces` — trimming takes no atom away;
* `ForumMarkup.atoms_pieces`, `ForumMarkup.atoms_outputPieces` — **the atoms in the markup of a tree
  and of a document are those of the nodes that a pass visits**, in the same order.
-/

set_option autoImplicit false

namespace ForumMarkup

/-! ### Atoms among pieces -/

/-- A piece if it is an atom. -/
def Piece.atom : Piece → List Piece
  | .mark label => [.mark label]
  | .verbatim tag rest inner => [.verbatim tag rest inner]
  | _ => []

/-- The atoms among pieces, in order. -/
def atoms (ps : List Piece) : List Piece :=
  ps.flatMap Piece.atom

@[simp] theorem atoms_nil : atoms [] = [] := rfl

@[simp] theorem atoms_append (ps qs : List Piece) : atoms (ps ++ qs) = atoms ps ++ atoms qs :=
  List.flatMap_append

@[simp] theorem atoms_char (c : Char) (ps : List Piece) : atoms (.char c :: ps) = atoms ps := rfl

@[simp] theorem atoms_opening (tag : Tag) (rest : String) (ps : List Piece) :
    atoms (.opening tag rest :: ps) = atoms ps := rfl

@[simp] theorem atoms_letters (s : String) : atoms (letters s) = [] := by
  simp [atoms, letters, List.flatMap_map, Piece.atom]

@[simp] theorem atoms_wrapped (tag : Tag) (rest : String) (ps : List Piece) :
    atoms (wrapped tag rest ps) = atoms ps := by
  simp [atoms, wrapped, Piece.atom]

@[simp] theorem atoms_asBlockPieces (ps : List Piece) : atoms (asBlockPieces ps) = atoms ps := by
  simp [asBlockPieces]

/-- Trimming takes no atom away. -/
@[simp] theorem atoms_trimPieces (ps : List Piece) : atoms (trimPieces ps) = atoms ps :=
  flatMap_trimPieces (fun _ => rfl) ps

theorem atoms_intercalate (lines : List (List Piece)) :
    atoms ((letters "\n").intercalate lines) = lines.flatMap atoms := by
  induction lines with
  | nil => simp
  | cons line lines ih =>
      cases lines with
      | nil => simp
      | cons line' lines => simp [List.intercalate_cons_cons, ih]

/-- What is read off atoms only is read off the atoms among pieces. -/
theorem flatMap_atoms {α : Type} {f : Piece → List α} (hf : ∀ p, p.atom = [] → f p = [])
    (ps : List Piece) : (atoms ps).flatMap f = ps.flatMap f := by
  have hpiece : ∀ p : Piece, p.atom.flatMap f = f p := by
    intro p
    cases p
    case mark => simp [Piece.atom]
    case verbatim => simp [Piece.atom]
    all_goals exact (hf _ rfl).symm
  rw [atoms, List.flatMap_assoc]
  exact List.flatMap_congr fun p _ => hpiece p

/-! ### The atoms of the parts of a node -/

theorem atoms_dressPieces (kind : Kind) (term inner : List Piece) :
    atoms (dressPieces trimPieces kind term inner) =
      (if kind = .item then atoms term else []) ++ atoms inner := by
  cases kind
  case tableRow =>
      simp only [dressPieces]
      split
      · simp [*]
      · simp
  all_goals simp [dressPieces]

theorem atoms_headlinePieces (mark : String) (title : List Piece) :
    atoms (headlinePieces mark title) = atoms title := by
  simp [headlinePieces]

theorem atoms_plainListPieces (ps : List (String × Property)) (items : List Piece) :
    atoms (plainListPieces trimPieces ps items) = atoms items := by
  unfold plainListPieces
  split <;> simp

theorem atoms_linkPieces (ps : List (String × Property)) (description : List Piece) :
    atoms (linkPieces ps description) = atoms description := by
  unfold linkPieces
  split
  · by_cases h : description = [] <;> simp [h]
  · rfl

theorem atoms_wordedPieces (v : Value) : atoms (wordedPieces v) = [] := by
  simp [wordedPieces]

theorem atoms_blankPieces (n : Node) : atoms (blankPieces n) = [] := by
  unfold blankPieces
  split
  · simp [atoms, List.flatMap_replicate, Piece.atom]
  · rfl

/-! ### The atoms of a tree -/

/-- The pieces that a node without contents writes. -/
def Node.ownPieces (o : Options) : Node → List Piece
  | .mk kind ps _ =>
    match kind.role with
    | .leaf => leafPieces o kind ps
    | .codeBlock => codePieces o kind ps
    | .reference => [.mark (labelIn ps), .char ' ']
    | _ => []

/-- The atoms of the node that is checked at a point. -/
def Point.atoms (o : Options) : Point → List Piece
  | .construct n => ForumMarkup.atoms (n.ownPieces o)
  | _ => []

/-- The atoms of the nodes that are checked at points, in order. -/
def atomsAt (o : Options) (ms : List Point) : List Piece :=
  ms.flatMap (Point.atoms o)

section

variable (o : Options)

@[simp] theorem atomsAt_nil : atomsAt o [] = [] := rfl

@[simp] theorem atomsAt_cons (m : Point) (ms : List Point) :
    atomsAt o (m :: ms) = m.atoms o ++ atomsAt o ms := rfl

@[simp] theorem atomsAt_append (ms ms' : List Point) :
    atomsAt o (ms ++ ms') = atomsAt o ms ++ atomsAt o ms' :=
  List.flatMap_append

@[simp] theorem atoms_beginning (root : Node) : (Point.beginning root).atoms o = [] := rfl

@[simp] theorem atoms_parts (n : Node) : (Point.parts n).atoms o = [] := rfl

@[simp] theorem atoms_level (n : Node) : (Point.level n).atoms o = [] := rfl

@[simp] theorem atoms_worded (v : Value) : (Point.worded v).atoms o = [] := rfl

@[simp] theorem atoms_joined (ns : List Node) : (Point.joined ns).atoms o = [] := rfl

@[simp] theorem atoms_blanks (n : Node) : (Point.blanks n).atoms o = [] := rfl

@[simp] theorem atoms_listed : Point.listed.atoms o = [] := rfl

theorem atoms_construct (kind : Kind) (ps : List (String × Property)) (cs : List Node) :
    (Point.construct (.mk kind ps cs)).atoms o = atoms (Node.ownPieces o (.mk kind ps cs)) := rfl

end

/-- **The atoms in the markup of a tree are those of the nodes that a pass visits**, in the same
order. -/
theorem atoms_pieces (env : Environment) : TreeCases
    (fun n => ∀ inList,
      atoms (n.pieces env trimPieces inList) = atomsAt env.options (n.points inList))
    (fun ns => ∀ inList,
      atoms (listPieces env trimPieces inList ns) = atomsAt env.options (listPoints inList ns))
    (fun ps => ∀ name,
      atoms (passagePieces env trimPieces name ps) = atomsAt env.options (passagePoints name ps))
    where
  node kind ps cs hps hcs := by
    intro inList
    rw [Node.pieces, Node.points]
    have hconstruct := atoms_construct env.options kind ps cs
    rw [Node.ownPieces] at hconstruct
    cases h : kind.role with
    | container =>
        simp only [h, atoms_nil] at hconstruct
        by_cases hitem : inList = true ∧ kind = .item
        · obtain ⟨hinList, rfl⟩ := hitem
          simp [atoms_dressPieces, hconstruct, hinList, hps, hcs, termPieces]
        · simp [atoms_dressPieces, hconstruct, hitem, hcs]
    | leaf => simpa [h] using hconstruct.symm
    | codeBlock => simpa [h] using hconstruct.symm
    | headline =>
        simp only [h, atoms_nil] at hconstruct
        dsimp only
        split
        · simp [hconstruct]
        · simp [atoms_headlinePieces, hps, hcs, hconstruct]
    | list =>
        simp only [h, atoms_nil] at hconstruct
        simp [atoms_plainListPieces, hcs, hconstruct]
    | link =>
        simp only [h, atoms_nil] at hconstruct
        simp [atoms_linkPieces, hcs, hconstruct]
    | reference => simpa [h] using hconstruct.symm
    | refused => simpa [h] using hconstruct.symm
  nil := fun _ => rfl
  cons n ns hn hns := by
    intro inList
    rw [listPieces, listPoints]
    simp [hn, hns, atoms_blankPieces]
  bare := fun _ => rfl
  value name v ps hps := by
    intro sought
    rw [passagePieces, passagePoints]
    split
    · simp [atoms_wordedPieces]
    · exact hps sought
  nodes name ns ps hns hps := by
    intro sought
    rw [passagePieces, passagePoints]
    split
    · simp [hns]
    · exact hps sought

/-! ### The atoms of a document -/

theorem atoms_notePieces (env : Environment) (s : Scope) (label : String) :
    atoms (notePieces env trimPieces s label) = atomsAt env.options (s.notePoints label) := by
  cases h : lookupEntry label s.definitions with
  | none => simp [notePieces, Scope.notePoints, h]
  | some d =>
      simp [notePieces, Scope.notePoints, h, (atoms_pieces env).holds_nodes, contentPoints]

theorem atoms_sectionPieces (env : Environment) (s : Scope) (labels : List String) :
    atoms (sectionPieces env trimPieces s labels) =
      atomsAt env.options (labels.flatMap s.notePoints) := by
  have hlines : ∀ ls : List (String × Nat),
      (ls.map fun l => linePieces env trimPieces s l.1 l.2).flatMap atoms =
        atomsAt env.options ((ls.map Prod.fst).flatMap s.notePoints) := by
    intro ls
    simp [List.flatMap_map, linePieces, atoms_notePieces, atomsAt, List.flatMap_assoc]
  unfold sectionPieces
  split
  · rename_i h
    rw [h]
    rfl
  · rw [atoms_append, atoms_intercalate, hlines, List.zipIdx_map_fst, atoms_headlinePieces,
      atoms_letters, List.nil_append]

/-- **The atoms in the markup of a document are those of the nodes that a pass visits**, in the same
order: those of the body first, and then those of the footnotes. -/
theorem atoms_outputPieces (o : Options) (root : Node) :
    atoms (outputPieces o root) = atomsAt o ((Scope.ofDocument root).documentPoints root) := by
  have htree := (atoms_pieces (passEnvironment o root)).holds root false
  have hsection := atoms_sectionPieces (passEnvironment o root) (.ofDocument root)
    ((Scope.ofDocument root).notes root)
  have hoptions : (passEnvironment o root).options = o := rfl
  rw [hoptions] at htree hsection
  simp [outputPieces, documentPieces, Scope.documentPoints, htree, hsection, atoms_blankPieces]

end ForumMarkup
