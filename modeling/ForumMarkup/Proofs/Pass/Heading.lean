import ForumMarkup.Proofs.Pass.Numbering
import ForumMarkup.Proofs.Pass.Reach
import Mathlib.Data.List.Infix
/-
**The lines of headlines.**

A headline becomes a line of its own, with a mark and a title between two pairs of tags.  Such a
line begins and ends with a tag, so trimming does not touch it, and wherever a pass comes to a
headline that is not left out, its line is found in the text of the document.

Main definitions:

* `ForumMarkup.SolidEnds` — pieces that no trimming touches;
* `ForumMarkup.IsRendered` — the headlines that a pass over a document writes;
* `ForumMarkup.headingPieces`, `ForumMarkup.lineOf` — the pieces of a heading, and those of the line
  of a headline.

Main results:

* `ForumMarkup.infix_trimPieces` — what begins and ends with no blank is kept by trimming;
* `ForumMarkup.line_infix_pieces`, `ForumMarkup.line_infix_outputPieces` — **the line of a headline
  is found in the pieces of a tree and of a document**;
* `ForumMarkup.title_infix_outputPieces` — so is the title over the footnotes;
* `ForumMarkup.isRendered_iff` — the headlines that a pass writes are those whose level it counts.
-/

set_option autoImplicit false

namespace ForumMarkup

/-! ### What trimming does not touch -/

/-- Pieces that neither begin nor end with a blank character. -/
def SolidEnds (ps : List Piece) : Prop :=
  (∃ p, ps.head? = some p ∧ p.isBlank = false) ∧ ∃ p, ps.getLast? = some p ∧ p.isBlank = false

theorem infix_dropWhile {qs ps : List Piece} (h : qs <:+: ps)
    (hfirst : ∃ q, qs.head? = some q ∧ q.isBlank = false) :
    qs <:+: ps.dropWhile Piece.isBlank := by
  induction ps with
  | nil => exact h
  | cons p ps ih =>
      cases hp : p.isBlank with
      | false => rwa [List.dropWhile_cons_of_neg (by simp [hp])]
      | true =>
          rw [List.dropWhile_cons_of_pos hp]
          rcases List.infix_cons_iff.1 h with hprefix | hinfix
          · obtain ⟨q, hq, hsolid⟩ := hfirst
            obtain ⟨qs', rfl⟩ : ∃ qs', qs = q :: qs' := List.head?_eq_some_iff.1 hq
            obtain ⟨rfl, -⟩ := List.cons_prefix_cons.1 hprefix
            simp [hp] at hsolid
          · exact ih hinfix

/-- What begins and ends with no blank is not touched by trimming. -/
theorem infix_trimPieces {qs ps : List Piece} (h : qs <:+: ps) (hsolid : SolidEnds qs) :
    qs <:+: trimPieces ps := by
  have hend : ∃ q, qs.reverse.head? = some q ∧ q.isBlank = false := by
    simpa using hsolid.2
  have hstart := infix_dropWhile h hsolid.1
  rw [trimPieces, ← List.reverse_infix, List.reverse_reverse]
  exact infix_dropWhile (List.reverse_infix.2 hstart) hend

theorem solidEnds_wrapped (tag : Tag) (rest : String) (ps : List Piece) :
    SolidEnds (wrapped tag rest ps) :=
  ⟨⟨_, rfl, rfl⟩, _, by rw [wrapped, ← List.cons_append, List.getLast?_concat], rfl⟩

theorem infix_append_left {qs ps : List Piece} (h : qs <:+: ps) (others : List Piece) :
    qs <:+: ps ++ others :=
  h.trans (List.prefix_append ps others).isInfix

theorem infix_append_right {qs ps : List Piece} (h : qs <:+: ps) (others : List Piece) :
    qs <:+: others ++ ps :=
  h.trans (List.suffix_append others ps).isInfix

theorem infix_wrapped {qs ps : List Piece} (h : qs <:+: ps) (tag : Tag) (rest : String) :
    qs <:+: wrapped tag rest ps :=
  List.infix_cons (infix_append_left h _)

theorem infix_asBlockPieces {qs ps : List Piece} (h : qs <:+: ps) : qs <:+: asBlockPieces ps :=
  List.infix_cons (infix_append_left h _)

theorem infix_intercalate {α : Type} {sep part : List α} {parts : List (List α)}
    (h : part ∈ parts) : part <:+: sep.intercalate parts := by
  induction parts with
  | nil => cases h
  | cons first parts ih =>
      cases parts with
      | nil =>
          rw [List.mem_singleton.1 h]
          simp
      | cons next parts =>
          rw [List.intercalate_cons_cons]
          rcases List.mem_cons.1 h with rfl | h
          · exact (List.prefix_append_of_prefix (List.prefix_append part sep)).isInfix
          · exact (ih h).trans (List.suffix_append _ _).isInfix

/-! ### The parts of a node -/

section

variable {qs : List Piece} (hsolid : SolidEnds qs)

include hsolid in
/-- What is found in the content of a node, or in the term of an item, is found in its markup. -/
theorem infix_dressPieces {term inner : List Piece} {kind : Kind}
    (h : qs <:+: inner ∨ kind = .item ∧ qs <:+: term) :
    qs <:+: dressPieces trimPieces kind term inner := by
  rcases h with h | ⟨rfl, h⟩
  · cases kind
    case tableRow =>
        have hne : inner ≠ [] := by
          rintro rfl
          obtain ⟨p, hp, -⟩ := hsolid.1
          simp [List.infix_nil.1 h] at hp
        rw [dressPieces, if_neg hne]
        exact infix_wrapped h _ _
    case quoteBlock => exact infix_wrapped (infix_asBlockPieces (infix_trimPieces h hsolid)) _ _
    case item =>
        exact List.infix_cons
          (infix_append_left (infix_append_right (infix_trimPieces h hsolid) term) _)
    all_goals first
      | exact h
      | exact infix_wrapped h _ _
  · exact List.infix_cons (infix_append_left (infix_append_left h _) _)

include hsolid in
theorem infix_plainListPieces {items : List Piece} (h : qs <:+: items)
    (ps : List (String × Property)) : qs <:+: plainListPieces trimPieces ps items := by
  unfold plainListPieces
  split
  · exact infix_wrapped (infix_asBlockPieces (infix_trimPieces h hsolid)) _ _
  · exact infix_wrapped (infix_asBlockPieces (infix_trimPieces h hsolid)) _ _

include hsolid in
theorem infix_linkPieces {description : List Piece} (h : qs <:+: description)
    (ps : List (String × Property)) : qs <:+: linkPieces ps description := by
  have hne : description ≠ [] := by
    rintro rfl
    obtain ⟨p, hp, -⟩ := hsolid.1
    simp [List.infix_nil.1 h] at hp
  unfold linkPieces
  split
  · rw [if_neg hne]
    exact infix_wrapped h _ _
  · exact h

end

/-! ### The line of a headline -/

/-- The pieces of a heading, without the empty line after it. -/
def headingPieces (mark : String) (title : List Piece) : List Piece :=
  wrapped .bold "" (wrapped .underline "" (letters mark ++ title))

theorem written_headingPieces (numbers : List String) (mark : String) (title : List Piece) :
    written numbers (headingPieces mark title) =
      "[b][u]" ++ mark ++ written numbers title ++ "[/u][/b]" := by
  have hopen : "[b][u]" = "[b]" ++ "[u]" := rfl
  have hclose : "[/u][/b]" = "[/" ++ ("u" ++ ("]" ++ ("[/" ++ ("b" ++ "]")))) := rfl
  have hbold : "[" ++ Tag.bold.name ++ "" ++ "]" = "[b]" := rfl
  have hunderline : "[" ++ Tag.underline.name ++ "" ++ "]" = "[u]" := rfl
  rw [headingPieces, written_wrapped, written_wrapped, written_append, written_letters, hbold,
    hunderline, hopen, hclose]
  simp only [String.append_assoc]
  rfl

theorem headingPieces_infix_headlinePieces (mark : String) (title : List Piece) :
    headingPieces mark title <:+: headlinePieces mark title :=
  (List.prefix_append _ _).isInfix

/-- The pieces of the line of a headline. -/
def lineOf (env : Environment) (n : Node) : List Piece :=
  headingPieces (markOf (writtenLevel env.scope? n.properties))
    (passagePieces env trimPieces "title" n.properties)

/-- The line of a headline is found in the pieces of every tree in which a pass comes to it. -/
theorem line_infix_pieces (env : Environment) : TreeCases
    (fun n => ∀ inList m, .level m ∈ n.points inList →
      lineOf env m <:+: n.pieces env trimPieces inList)
    (fun ns => ∀ inList m, .level m ∈ listPoints inList ns →
      lineOf env m <:+: listPieces env trimPieces inList ns)
    (fun ps => ∀ name m, .level m ∈ passagePoints name ps →
      lineOf env m <:+: passagePieces env trimPieces name ps) where
  node kind ps cs hps hcs := by
    intro inList m hm
    have hsolid : SolidEnds (lineOf env m) := solidEnds_wrapped ..
    rw [Node.points] at hm
    rw [Node.pieces]
    cases h : kind.role with
    | container =>
        simp only [h, List.mem_cons, List.mem_append, reduceCtorEq, false_or, or_false,
          List.not_mem_nil] at hm
        refine infix_dressPieces hsolid ?_
        rcases hm with hm | hm
        · split at hm
          · rename_i hitem
            have hterm := infix_wrapped (hps "tag" m hm) .italic ""
            rw [if_pos hitem]
            exact .inr ⟨hitem.2, infix_append_left hterm _⟩
          · cases hm
        · exact .inl (hcs false m hm)
    | headline =>
        have hheadline := Kind.eq_headline h
        subst hheadline
        simp only [h] at hm ⊢
        split at hm
        · simp at hm
        · rename_i hshown
          rw [if_neg hshown]
          simp only [List.mem_cons, List.mem_append, reduceCtorEq, false_or, or_false,
            List.not_mem_nil, Point.level.injEq] at hm
          rcases hm with rfl | hm | hm
          · exact infix_append_left (headingPieces_infix_headlinePieces ..) _
          · have htitle := infix_append_right (hps "title" m hm)
              (letters (markOf (writtenLevel env.scope? ps)))
            have hline := infix_wrapped (infix_wrapped htitle .underline "") .bold ""
            exact infix_append_left (infix_append_left hline _) _
          · exact infix_append_right (hcs false m hm) _
    | list =>
        simp only [h, List.mem_cons, List.mem_append, reduceCtorEq, false_or, or_false,
          List.not_mem_nil] at hm
        exact infix_plainListPieces hsolid (hcs _ m hm) ps
    | link =>
        simp only [h, List.mem_cons, List.mem_append, reduceCtorEq, false_or, or_false,
          List.not_mem_nil] at hm
        exact infix_linkPieces hsolid (hcs _ m hm) ps
    | _ => simp [h] at hm
  nil := fun _ _ h => nomatch h
  cons n ns hn hns := by
    intro inList m hm
    rw [listPoints] at hm
    rw [listPieces]
    simp only [List.mem_cons, List.mem_append, reduceCtorEq, false_or] at hm
    rcases hm with hm | hm
    · exact infix_append_left (infix_append_left (hn inList m hm) _) _
    · exact infix_append_right (hns inList m hm) _
  bare := fun _ _ h => nomatch h
  value name v ps hps := by
    intro sought m hm
    rw [passagePoints] at hm
    rw [passagePieces]
    split at hm
    · simp at hm
    · rename_i hname
      rw [if_neg hname]
      exact hps sought m hm
  nodes name ns ps hns hps := by
    intro sought m hm
    rw [passagePoints] at hm
    rw [passagePieces]
    split at hm
    · rename_i hname
      rw [if_pos hname]
      have hm : .level m ∈ listPoints false ns := by simpa using hm
      exact hns false m hm
    · rename_i hname
      rw [if_neg hname]
      exact hps sought m hm

/-! ### Whole documents -/

theorem line_infix_notePieces (env : Environment) {s : Scope} {label : String} {m : Node}
    (h : .level m ∈ s.notePoints label) :
    lineOf env m <:+: notePieces env trimPieces s label := by
  rw [Scope.notePoints] at h
  rw [notePieces]
  cases hd : lookupEntry label s.definitions with
  | none => simp [hd] at h
  | some d =>
      have hm : .level m ∈ listPoints false d.children := by
        simpa [hd, contentPoints] using h
      exact infix_trimPieces ((line_infix_pieces env).holds_nodes _ false m hm)
        (solidEnds_wrapped ..)

/-- The line of every headline that a pass comes to is found in the pieces of the document. -/
theorem line_infix_outputPieces {o : Options} {root m : Node}
    (h : .level m ∈ (Scope.ofDocument root).documentPoints root) :
    lineOf (passEnvironment o root) m <:+: outputPieces o root := by
  rw [outputPieces, documentPieces]
  simp only [Scope.documentPoints, Point.beginning, List.mem_cons, List.mem_append, reduceCtorEq,
    false_or, or_false, List.not_mem_nil] at h
  rcases h with h | h
  · have hbody := (line_infix_pieces (passEnvironment o root)).holds root false m h
    exact infix_append_left (infix_append_left hbody _) _
  · obtain ⟨label, hlabel, h⟩ := List.mem_flatMap.1 h
    have hne : (Scope.ofDocument root).notes root ≠ [] := List.ne_nil_of_mem hlabel
    obtain ⟨place, hplace⟩ := List.mem_iff_getElem?.1 hlabel
    have hplace : (label, place) ∈ ((Scope.ofDocument root).notes root).zipIdx :=
      List.mem_zipIdx_iff_getElem?.2 hplace
    refine infix_append_right ?_ _
    rw [sectionPieces, if_neg hne]
    refine infix_append_right ?_ _
    have hnote := line_infix_notePieces (passEnvironment o root) h
    have hline := infix_append_right hnote (letters ("^" ++ toString (place + 1) ++ ": "))
    exact hline.trans (infix_intercalate (List.mem_map.2 ⟨(label, place), hplace, rfl⟩))

/-- The title over the footnotes is found in the pieces of the document, if there are any. -/
theorem title_infix_outputPieces {o : Options} {root : Node}
    (h : (Scope.ofDocument root).notes root ≠ []) :
    headingPieces "" (letters o.footnoteTitle) <:+: outputPieces o root := by
  have hoptions : (passEnvironment o root).options = o := rfl
  rw [outputPieces, documentPieces, sectionPieces, if_neg h, hoptions]
  exact infix_append_right (infix_append_left (headingPieces_infix_headlinePieces ..) _) _

/-! ### The headlines that a pass writes -/

variable {root : Node}

/-- Whether a pass over a document writes a headline. -/
def IsRendered (root n : Node) : Prop :=
  (Scope.ofDocument root).Reached root n ∧ n.kind = .headline ∧ isSuppressed n.properties = false

theorem level_mem_documentPoints {n : Node} (hn : IsRendered root n) :
    .level n ∈ (Scope.ofDocument root).documentPoints root := by
  obtain ⟨hreached, hkind, hsuppressed⟩ := hn
  obtain ⟨⟨b, hpoints⟩, -⟩ := Scope.passed_documentPoints (Scope.reached_iff.1.1 hreached)
  have hopens : n.opens = true := by
    obtain ⟨kind, ps, cs⟩ := n
    cases hkind
    have hsuppressed : isSuppressed ps = false := hsuppressed
    simp [Node.opens, Kind.role, hsuppressed]
  exact hpoints (Node.mem_points.2 (.inr (.inr (.inl ⟨rfl, hkind, hopens⟩))))

/-- A headline is written and checked among some points. -/
def WritesHeadline (n : Node) (ms : List Point) : Prop :=
  .construct n ∈ ms ∧ n.kind = .headline ∧ isSuppressed n.properties = false

theorem WritesHeadline.mono {n : Node} {ms ms' : List Point} (h : WritesHeadline n ms)
    (hsubset : ms ⊆ ms') : WritesHeadline n ms' :=
  ⟨hsubset h.1, h.2⟩

theorem writesHeadline_listPoints {n : Node} {inList : Bool} {ns : List Node}
    (h : ∀ c ∈ ns, .level n ∈ c.points inList → WritesHeadline n (c.points inList))
    (hn : .level n ∈ listPoints inList ns) : WritesHeadline n (listPoints inList ns) := by
  obtain ⟨c, hc, hn | hn⟩ := mem_listPoints.1 hn
  · exact (h c hc hn).mono (points_subset_listPoints hc inList)
  · cases hn

/-- Where the level of a headline is counted, the headline is written. -/
theorem writesHeadline_points {n m : Node} {inList : Bool} (h : .level n ∈ m.points inList) :
    WritesHeadline n (m.points inList) := by
  induction m using Node.induction generalizing inList with
  | h m hcs hps =>
      rcases Node.mem_points.1 h with hn | ⟨hn, -⟩ | ⟨hn, hkind, hopens⟩ | ⟨name, hname, hn⟩ |
        ⟨hopens, hn | hn⟩
      · cases hn
      · cases hn
      · cases hn
        refine ⟨construct_mem_points _ inList, hkind, ?_⟩
        obtain ⟨kind, ps, cs⟩ := n
        cases hkind
        simpa [Node.opens, Kind.role, Node.properties] using hopens
      · rcases mem_passagePoints.1 hn with ⟨ns, hns, hn | hn⟩ | ⟨v, -, hn⟩
        · have hpassage : passageIn name m.properties = ns := by simp [passageIn, hns]
          have hwrites :=
            writesHeadline_listPoints (fun c hc => hps name c (hpassage.symm ▸ hc)) hn
          exact hwrites.mono (hpassage ▸ passagePoints_subset_points hname)
        · cases hn
        · cases hn
      · have hwrites := writesHeadline_listPoints (fun c hc => hcs c hc) hn
        exact hwrites.mono (listPoints_subset_points hopens inList)
      · cases hn

theorem writesHeadline_documentPoints {n : Node}
    (h : .level n ∈ (Scope.ofDocument root).documentPoints root) :
    WritesHeadline n ((Scope.ofDocument root).documentPoints root) := by
  have hcases := h
  simp only [Scope.documentPoints, Point.beginning, List.mem_cons, List.mem_append, reduceCtorEq,
    false_or, or_false, List.not_mem_nil] at hcases
  rcases hcases with hn | hn
  · refine (writesHeadline_points hn).mono fun m hm => ?_
    simp [Scope.documentPoints, hm]
  · obtain ⟨label, hl, hn⟩ := List.mem_flatMap.1 hn
    refine WritesHeadline.mono ?_ (Scope.notePoints_subset _ hl)
    unfold Scope.notePoints at hn ⊢
    split at hn
    · rename_i d _
      have hlist : .level n ∈ listPoints false d.children := by simpa [contentPoints] using hn
      exact (writesHeadline_listPoints (fun _ _ => writesHeadline_points) hlist).mono
        (List.subset_append_left _ _)
    · cases hn

/-- The headlines that a pass writes are those whose level it counts. -/
theorem isRendered_iff {n : Node} :
    IsRendered root n ↔ .level n ∈ (Scope.ofDocument root).documentPoints root := by
  refine ⟨level_mem_documentPoints, fun h => ?_⟩
  obtain ⟨hconstruct, hheadline⟩ := writesHeadline_documentPoints h
  exact ⟨Scope.reached_iff.1.2 hconstruct, hheadline⟩

end ForumMarkup
