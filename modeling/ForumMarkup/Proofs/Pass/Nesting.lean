import ForumMarkup.Proofs.Document.Preorder
import ForumMarkup.Proofs.Markup.Anchor
import ForumMarkup.Proofs.Markup.Nesting
import ForumMarkup.Proofs.Pass.Numbering
import ForumMarkup.Proofs.Value.Points
/-
**The tags in the text of a document nest.**

Text is never escaped, so a document can write tags of its own.  When none of the texts that it
prints has a square bracket, all tags in its markup come from the pass, and these nest whatever the
document: they are put together in pairs, and trimming does not touch them.

Main definitions:

* `ForumMarkup.Kind.printed` — the properties whose values a kind prints;
* `ForumMarkup.Node.PrintsPlain` — a node that prints no brackets;
* `ForumMarkup.AllPlain` — pieces whose texts have no brackets.

Main results:

* `ForumMarkup.bracketFree_normalizeAnchor` — escaping adds no brackets to the target of an anchor;
* `ForumMarkup.Composed.nested` — markup that is put together in the ways of a pass nests;
* `ForumMarkup.plain_pieces` — nodes that print no brackets have plain pieces;
* `ForumMarkup.renderDocument_nests` — **the tags in the text of a document nest**.
-/

set_option autoImplicit false

namespace ForumMarkup

/-! ### What nodes print -/

/-- The properties whose values a kind prints. -/
def Kind.printed : Kind → List String
  | .plainText | .code | .verbatim | .exampleBlock | .fixedWidth => ["value"]
  | .srcBlock => ["value", "language"]
  | .entity => ["utf8"]
  | .link => ["type", "path"]
  | _ => []

/-- A node that prints no brackets.  The target of an anchor is printed after its escapes have been
resolved. -/
structure Node.PrintsPlain (n : Node) : Prop where
  printed : ∀ name ∈ n.kind.printed, ∀ v, n.value? name = some v → BracketFree v.shown
  passage : ∀ name, n.kind.passage? = some name → ∀ v s, n.value? name = some v →
    v.asText? = some s → BracketFree s
  target : n.kind = .link → isAnchor (partsIn n.properties).target = true →
    BracketFree (String.ofList (Text.percentDecode (partsIn n.properties).target.toList))

/-- What the properties of a node print. -/
theorem Node.PrintsPlain.shown {kind : Kind} {ps : List (String × Property)} {cs : List Node}
    (h : (Node.mk kind ps cs).PrintsPlain) (name : String) (hname : name ∈ kind.printed) :
    ∀ v, valueIn? name ps = some v → BracketFree v.shown :=
  h.printed name hname

/-! ### Texts that are printed after a change -/

theorem bracketFree_textIn {name default : String} {ps : List (String × Property)}
    (h : ∀ v, Node.valueIn? name ps = some v → BracketFree v.shown)
    (hdefault : BracketFree default) :
    BracketFree (textIn name default ps) := by
  unfold textIn
  split
  · rename_i v hv
    exact h v hv
  · exact hdefault

/-- Escaping adds no brackets to the target of an anchor. -/
theorem bracketFree_normalizeAnchor {target : String}
    (h : BracketFree (String.ofList (Text.percentDecode target.toList))) :
    BracketFree (normalizeAnchor target) := by
  rw [BracketFree, String.toList_ofList] at h
  exact ⟨mt (bracket_mem_normalizeAnchor_iff (by decide) target).1 h.1,
    mt (bracket_mem_normalizeAnchor_iff (by decide) target).1 h.2⟩

theorem mem_of_mem_lines {c : Char} {cs line : List Char} (hline : line ∈ Text.lines cs)
    (hc : c ∈ line) : c ∈ cs := by
  induction cs generalizing line with
  | nil =>
      cases List.mem_singleton.1 hline
      exact hc
  | cons d cs ih =>
      simp only [Text.lines] at hline
      split at hline
      · rcases List.mem_cons.1 hline with rfl | hline
        · cases hc
        · exact List.mem_cons_of_mem _ (ih hline hc)
      -- The character belongs to the first line of those after it.
      · cases hlines : Text.lines cs with
        | nil =>
            simp only [hlines] at hline
            cases List.mem_singleton.1 hline
            cases List.mem_singleton.1 hc
            exact List.mem_cons_self
        | cons first others =>
            simp only [hlines] at hline ih
            rcases List.mem_cons.1 hline with rfl | hline
            · rcases List.mem_cons.1 hc with rfl | hc
              · exact List.mem_cons_self
              · exact List.mem_cons_of_mem _ (ih List.mem_cons_self hc)
            · exact List.mem_cons_of_mem _ (ih (List.mem_cons_of_mem _ hline) hc)

theorem mem_unlines {c : Char} {ls : List (List Char)} (h : c ∈ Text.unlines ls) :
    (∃ line ∈ ls, c ∈ line) ∨ c = '\n' := by
  induction ls with
  | nil => cases h
  | cons line others ih =>
      cases others with
      | nil => exact .inl ⟨line, List.mem_cons_self, h⟩
      | cons line' others =>
          rw [Text.unlines, List.mem_append, List.mem_cons] at h
          rcases h with hc | rfl | hc
          · exact .inl ⟨line, List.mem_cons_self, hc⟩
          · exact .inr rfl
          · exact (ih hc).imp_left fun ⟨l, hl, hc⟩ => ⟨l, List.mem_cons_of_mem _ hl, hc⟩
          · simp

/-- Taking indentation away adds no characters but line feeds. -/
theorem mem_dedentChars {c : Char} {cs : List Char} (h : c ∈ Text.dedentChars cs) :
    c ∈ cs ∨ c = '\n' := by
  refine (mem_unlines h).imp_left fun ⟨line, hline, hc⟩ => ?_
  obtain ⟨kept, hkept, rfl⟩ := List.mem_map.1 hline
  obtain ⟨whole, hwhole, rfl⟩ := List.mem_map.1 hkept
  -- The margin is only taken from lines that have it, and lines of blanks are emptied before.
  have hemptied : c ∈ Text.emptied whole := by
    split at hc
    · exact List.mem_of_mem_drop hc
    · exact hc
  unfold Text.emptied at hemptied
  split at hemptied
  · cases hemptied
  · exact mem_of_mem_lines hwhole hemptied

theorem bracketFree_dedent {s : String} (h : BracketFree s) : BracketFree (Text.dedent s) := by
  rw [Text.dedent, BracketFree, String.toList_ofList]
  refine ⟨fun hc => ?_, fun hc => ?_⟩
  · rcases mem_dedentChars hc with hc | hc
    · exact h.1 hc
    · exact absurd hc (by decide)
  · rcases mem_dedentChars hc with hc | hc
    · exact h.2 hc
    · exact absurd hc (by decide)

theorem bracketFree_closedLines {s : String} (h : BracketFree s) : BracketFree (closedLines s) := by
  rw [closedLines]
  split
  · exact h
  · exact h.append (by decide)

/-- The text in a block of code has no more brackets than its value, with or without its
indentation. -/
theorem bracketFree_codeOf {kind : Kind} {ps : List (String × Property)} {code : String}
    (hv : ∀ v, Node.valueIn? "value" ps = some v → BracketFree v.shown)
    (h : codeOf kind ps = .ok code) : BracketFree code := by
  obtain ⟨s, hs, rfl⟩ := codeOf_eq_ok.1 h
  have htext : BracketFree s := hs.shown ▸ bracketFree_textIn hv (by decide)
  refine bracketFree_closedLines ?_
  split
  · exact bracketFree_dedent htext
  · exact htext

/-! ### Plain pieces -/

/-- Pieces whose texts have no brackets. -/
def AllPlain (ps : List Piece) : Prop :=
  ∀ p ∈ ps, p.Plain

namespace AllPlain

variable {ps qs : List Piece}

theorem nil : AllPlain [] := fun _ hp => nomatch hp

theorem cons {p : Piece} (hp : p.Plain) (hps : AllPlain ps) : AllPlain (p :: ps) :=
  List.forall_mem_cons.2 ⟨hp, hps⟩

theorem append (hps : AllPlain ps) (hqs : AllPlain qs) : AllPlain (ps ++ qs) :=
  List.forall_mem_append.2 ⟨hps, hqs⟩

theorem letters {s : String} (h : BracketFree s) : AllPlain (letters s) := by
  intro p hp
  obtain ⟨c, hc, rfl⟩ := List.mem_map.1 hp
  exact ⟨fun e => h.1 (e ▸ hc), fun e => h.2 (e ▸ hc)⟩

theorem replicate {c : Char} (h : c ≠ '[' ∧ c ≠ ']') (n : Nat) :
    AllPlain (List.replicate n (.char c)) := by
  intro p hp
  rw [List.eq_of_mem_replicate hp]
  exact h

theorem trim (h : AllPlain ps) : AllPlain (trimPieces ps) :=
  fun p hp => h p ((trimPieces_within ps).subset hp)

theorem wrapped (tag : Tag) {rest : String} (hrest : BracketFree rest) (hname : AfterName rest)
    (h : AllPlain ps) : AllPlain (wrapped tag rest ps) :=
  cons ⟨hrest, hname⟩ (h.append (cons trivial nil))

theorem wrap (tag : Tag) (h : AllPlain ps) : AllPlain (ForumMarkup.wrapped tag "" ps) :=
  wrapped tag (by decide) (by decide) h

theorem lineFeed : Piece.Plain (.char '\n') := by
  exact ⟨by decide, by decide⟩

theorem block (h : AllPlain ps) : AllPlain (asBlockPieces (trimPieces ps)) :=
  cons lineFeed (h.trim.append (cons lineFeed nil))

theorem dressPieces (kind : Kind) (hterm : AllPlain ps) (hinner : AllPlain qs) :
    AllPlain (dressPieces trimPieces kind ps qs) := by
  cases kind
  case tableRow =>
      simp only [ForumMarkup.dressPieces]
      split
      · exact nil
      · exact wrap _ hinner
  case quoteBlock => exact wrap _ hinner.block
  case item =>
      exact cons ⟨by decide, by decide⟩
        ((hterm.append hinner.trim).append (cons lineFeed nil))
  all_goals first
    | exact hinner
    | exact wrap _ hinner

theorem headlinePieces {mark : String} (hmark : BracketFree mark) (h : AllPlain ps) :
    AllPlain (headlinePieces mark ps) :=
  (wrap _ (wrap _ ((letters hmark).append h))).append (letters (by decide))

theorem plainListPieces (properties : List (String × Property)) (h : AllPlain ps) :
    AllPlain (plainListPieces trimPieces properties ps) := by
  unfold ForumMarkup.plainListPieces
  split
  · exact wrapped _ (by decide) (by simp [AfterName, endsName]) h.block
  · exact wrap _ h.block

theorem blankPieces (n : Node) : AllPlain (blankPieces n) := by
  unfold ForumMarkup.blankPieces
  split
  · refine replicate ?_ _
    cases n.kind.isObject <;> decide
  · exact nil

end AllPlain

theorem bracketFree_markOf (level : Value) : BracketFree (markOf level) := by
  have hmark : ∀ n mark, levelMark? n = some mark → BracketFree mark := by
    intro n mark h
    unfold levelMark? at h
    split at h <;> cases h <;> decide
  unfold markOf headlineMark
  cases level with
  | int n =>
      cases h : levelMark? n with
      | none =>
          simp only [h]
          decide
      | some mark =>
          simp only [h]
          exact hmark n mark h
  | _ => exact (show BracketFree "" by decide)

theorem plain_leafPieces {o : Options} (ho : BracketFree o.lineBreak) {kind : Kind}
    {ps : List (String × Property)} {cs : List Node} (hn : (Node.mk kind ps cs).PrintsPlain) :
    AllPlain (leafPieces o kind ps) := by
  have hvalue : "value" ∈ kind.printed → BracketFree (textIn "value" "" ps) := fun h =>
    bracketFree_textIn (hn.shown "value" h) (by decide)
  cases kind
  case plainText => exact .letters (hvalue (by decide))
  case code =>
      exact .cons ⟨by decide, by simp [AfterName, endsName], hvalue (by decide)⟩ .nil
  case verbatim =>
      exact .cons ⟨by decide, by simp [AfterName, endsName], hvalue (by decide)⟩ .nil
  case entity =>
      simp only [leafPieces]
      cases hutf8 : Node.valueIn? "utf8" ps with
      | none => exact .nil
      | some v =>
          have hv : BracketFree v.shown := hn.shown "utf8" (by decide) v hutf8
          rw [Option.getD_some]
          cases htext : v.asText? with
          | none => exact .nil
          | some s => exact .letters (Value.shown_of_asText? htext ▸ hv)
  case lineBreak => exact (AllPlain.wrap _ (.letters ho)).append (.cons AllPlain.lineFeed .nil)
  case horizontalRule => exact .wrap _ .nil
  all_goals exact .nil

/-- The attributes of a block of code have no brackets, and a blank stands in front of them. -/
theorem plain_codeAttributes (o : Options) {kind : Kind} {ps : List (String × Property)}
    {cs : List Node} (hn : (Node.mk kind ps cs).PrintsPlain) :
    BracketFree (attributeText (codeAttributes o kind ps)) ∧
      AfterName (attributeText (codeAttributes o kind ps)) := by
  have hempty : BracketFree (attributeText []) ∧ AfterName (attributeText []) := by decide
  have hlanguage : ∀ s, BracketFree s → BracketFree (attributeText [("lang", s)]) ∧
      AfterName (attributeText [("lang", s)]) := by
    intro s hs
    have hshown : attributeText [("lang", s)] = " lang=\"" ++ s ++ "\"" := by
      simp [attributeText, String.join]
    rw [hshown]
    exact ⟨(BracketFree.append (by decide) hs).append (by decide), by simp [AfterName, endsName]⟩
  -- Only a source block names its language.
  by_cases hkind : kind = .srcBlock
  · subst hkind
    unfold codeAttributes
    cases hgiven : givenIn "language" ps with
    | none => exact hempty
    | some v =>
        have hv : Node.valueIn? "language" ps = some v := (Option.filter_eq_some_iff.1 hgiven).1
        dsimp only
        split
        · exact hlanguage _ (hn.shown "language" (by decide) v hv)
        · exact hempty
  · have hnone : codeAttributes o kind ps = [] := by
      cases kind <;> first | rfl | exact absurd rfl hkind
    rw [hnone]
    exact hempty

theorem plain_codePieces (o : Options) {kind : Kind} {ps : List (String × Property)}
    {cs : List Node} (hn : (Node.mk kind ps cs).PrintsPlain) (hrole : kind.role = .codeBlock) :
    AllPlain (codePieces o kind ps) := by
  have hprinted : "value" ∈ kind.printed := by
    cases kind <;> first | decide | cases hrole
  obtain ⟨hattributes, hname⟩ := plain_codeAttributes o hn
  unfold codePieces
  split
  · rename_i code hcode
    have hinner : BracketFree ("\n" ++ code) :=
      BracketFree.append (by decide) (bracketFree_codeOf (hn.shown "value" hprinted) hcode)
    exact .cons AllPlain.lineFeed
      (.cons (p := .verbatim _ _ _) ⟨hattributes, hname, hinner⟩ (.cons AllPlain.lineFeed .nil))
  · exact .nil

theorem plain_linkPieces {ps : List (String × Property)} {cs : List Node}
    (hn : (Node.mk .link ps cs).PrintsPlain) {description : List Piece}
    (h : AllPlain description) : AllPlain (linkPieces ps description) := by
  have hurl : ∀ url, urlIn ps = .ok url → BracketFree url := by
    intro url hurl
    have hurl : resolveUrl (partsIn ps).scheme (partsIn ps).path (partsIn ps).target = .ok url :=
      resolveUrl_of_url hurl
    unfold resolveUrl at hurl
    split at hurl
    -- An anchor is decoded and escaped again, so its decoded text has to be without brackets.
    · rename_i hanchor
      cases hurl
      exact bracketFree_normalizeAnchor (hn.target rfl hanchor)
    · split at hurl
      · cases hurl
        have hscheme : BracketFree (partsIn ps).scheme :=
          partsIn_scheme ps ▸ bracketFree_textIn (hn.shown "type" (by decide)) (by decide)
        have hpath : BracketFree (partsIn ps).path :=
          partsIn_path ps ▸ bracketFree_textIn (hn.shown "path" (by decide)) (by decide)
        exact (hscheme.append (by decide)).append hpath
      · cases hurl
  unfold linkPieces
  split
  · rename_i url hok
    refine .wrapped _ (BracketFree.append (by decide) (hurl url hok)) ?_ ?_
    · simp [AfterName, endsName]
    · split
      · exact .letters (hurl url hok)
      · exact h
  · exact h

/-! ### Trees -/

/-- Nodes that print no brackets have plain pieces. -/
theorem plain_pieces (env : Environment) (hbreak : BracketFree env.options.lineBreak) : TreeCases
    (fun n => (∀ m ∈ n.preorder, m.PrintsPlain) →
      ∀ inList, AllPlain (n.pieces env trimPieces inList))
    (fun ns => (∀ m ∈ preorders ns, m.PrintsPlain) →
      ∀ inList, AllPlain (listPieces env trimPieces inList ns))
    (fun ps => ∀ name, (∀ m ∈ preorderUnder name ps, m.PrintsPlain) →
      (∀ v s, Node.valueIn? name ps = some v → v.asText? = some s → BracketFree s) →
      AllPlain (passagePieces env trimPieces name ps)) where
  node kind ps cs hps hcs := by
    intro hall inList
    have hn : (Node.mk kind ps cs).PrintsPlain := hall _ (mem_preorder_self _)
    have hchildren := hcs fun m hm => hall m (preorders_subset hm)
    rw [Node.pieces]
    cases h : kind.role with
    | container =>
        refine .dressPieces kind ?_ (hchildren false)
        split
        · rename_i hitem
          have htag := hps "tag" (fun m hm => hall m (preorderUnder_subset rfl hm))
            (hn.passage "tag" (by rw [hitem.2]; rfl))
          exact (AllPlain.wrap _ htag).append (.letters (by decide))
        · exact .nil
    | leaf => exact plain_leafPieces hbreak hn
    | codeBlock => exact plain_codePieces _ hn h
    | headline =>
        have htitle := hps "title" (fun m hm => hall m (preorderUnder_subset rfl hm))
          (hn.passage "title" (by rw [Kind.eq_headline h]; rfl))
        dsimp only
        split
        · exact .nil
        · exact (AllPlain.headlinePieces (bracketFree_markOf _) htitle).append (hchildren false)
    | list => exact .plainListPieces ps (hchildren _)
    | link =>
        cases Kind.eq_link h
        exact plain_linkPieces hn (hchildren false)
    | reference => exact .cons trivial (.cons ⟨by decide, by decide⟩ .nil)
    | refused => exact .nil
  nil := fun _ _ => .nil
  cons n ns hn hns := by
    intro hall inList
    have hfirst := hn (fun m hm => hall m (List.mem_append_left _ hm)) inList
    have hrest := hns (fun m hm => hall m (List.mem_append_right _ hm)) inList
    exact (hfirst.append (.blankPieces n)).append hrest
  bare := fun _ _ _ => .nil
  value name v ps hps := by
    intro sought hall htext
    rw [passagePieces]
    by_cases h : (name == sought) = true
    · rw [if_pos h]
      have hvalue : Node.valueIn? sought ((name, .value v) :: ps) = some v := by
        simp only [Node.valueIn?, lookupEntry, if_pos h]
      rw [wordedPieces]
      cases hv : v.asText? with
      | none => exact .nil
      | some s => exact .letters (htext v s hvalue hv)
    · rw [if_neg h]
      refine hps sought ?_ fun v s hs => htext v s ?_
      · simpa only [preorderUnder, if_neg h] using hall
      · simpa only [Node.valueIn?, lookupEntry, if_neg h] using hs
  nodes name ns ps hns hps := by
    intro sought hall htext
    rw [passagePieces]
    by_cases h : (name == sought) = true
    · rw [if_pos h]
      refine hns ?_ false
      simpa only [preorderUnder, if_pos h] using hall
    · rw [if_neg h]
      refine hps sought ?_ fun v s hs => htext v s ?_
      · simpa only [preorderUnder, if_neg h] using hall
      · simpa only [Node.valueIn?, lookupEntry, if_neg h] using hs

/-- Markup that is put together in the ways of a pass nests. -/
theorem Composed.nested {ps : List Piece} (h : Composed ps) : Nested ps := by
  induction h with
  | nil => exact .of_tagsIn_eq_nil rfl
  | append _ _ h h' => exact h.append h'
  | char c => exact .of_tagsIn_eq_nil rfl
  | mark label => exact .of_tagsIn_eq_nil rfl
  | bullet => exact .bullet
  | verbatim rest inner htag => exact .verbatim rest inner htag
  | wrapped rest htag _ h => exact h.wrapped rest htag
  | trimmed _ h => exact h.trim.append (.of_tagsIn_eq_nil rfl)

/-! ### Documents -/

section

variable {o : Options} {root : Node}

theorem plain_outputPieces (hnodes : ∀ n ∈ root.preorder, n.PrintsPlain)
    (htitle : BracketFree o.footnoteTitle) (hbreak : BracketFree o.lineBreak) :
    AllPlain (outputPieces o root) := by
  have htree := plain_pieces (passEnvironment o root) hbreak
  have hnote : ∀ label, AllPlain (notePieces (passEnvironment o root) trimPieces
      (.ofDocument root) label) := by
    intro label
    unfold notePieces
    split
    · rename_i d hd
      have hmem := Scope.mem_preorder_of_lookup hd
      refine (htree.holds_nodes _ (fun m hm => hnodes m (preorder_subset hmem ?_)) false).trim
      obtain ⟨kind, ps, cs⟩ := d
      exact preorders_subset hm
    · exact .nil
  refine ((htree.holds root hnodes false).append (.blankPieces root)).append ?_
  unfold sectionPieces
  split
  · exact .nil
  · refine (AllPlain.headlinePieces (by decide) (.letters htitle)).append
      (intercalate_induction .nil (fun _ _ => .append) (.letters (by decide)) fun line hl => ?_)
    obtain ⟨l, -, rfl⟩ := List.mem_map.1 hl
    have hnumber : BracketFree ("^" ++ toString (l.2 + 1) ++ ": ") :=
      (BracketFree.append (by decide) (bracketFree_toString _)).append (by decide)
    exact (AllPlain.letters hnumber).append (hnote l.1)

theorem nested_outputPieces (o : Options) (root : Node) : Nested (outputPieces o root) := by
  -- The line feed at the end has no tags.
  have hnested := (composed_outputPieces o root).nested
  intro stack tags
  have hstack := hnested stack tags
  rwa [tagsIn_append, List.append_assoc] at hstack

end

/-- **The tags in the text of a document nest.**  When no node prints a bracket and the options have
none, the text can be cut at its brackets; its tags are those of the vocabulary, all but the bullet
are closed in the reverse of the order in which they were opened, and the bullet never is. -/
theorem renderDocument_nests {o : Options} {root : Node} {text : String}
    (hnodes : ∀ n ∈ root.preorder, n.PrintsPlain) (htitle : BracketFree o.footnoteTitle)
    (hbreak : BracketFree o.lineBreak) (h : (renderDocument o root).1 = .ok text) :
    ∃ tokens, bracketTokens text = some tokens ∧
      (∀ t ∈ tokens, (ReadTag.ofToken t).name ∈ tagNames) ∧
      nests [] (tokens.map ReadTag.ofToken) = true := by
  have hplain := plain_outputPieces hnodes htitle hbreak
  have htags : ((outputPieces o root).flatMap Piece.tokens).map ReadTag.ofToken =
      tagsIn (outputPieces o root) := by
    rw [List.map_flatMap]
    exact List.flatMap_congr fun p hp => Piece.map_ofToken_tokens (hplain p hp)
  refine ⟨_, (renderDocument_ok h) ▸ bracketTokens_written _ hplain, fun t ht => ?_, ?_⟩
  · have hmem : ReadTag.ofToken t ∈ tagsIn (outputPieces o root) :=
      htags ▸ List.mem_map_of_mem ht
    obtain ⟨p, -, hp⟩ := List.mem_flatMap.1 hmem
    exact Piece.name_mem_tagNames hp
  · rw [htags]
    have hnested := nested_outputPieces o root [] []
    rw [List.append_nil] at hnested
    rw [hnested]
    rfl

/-- A list with one item. -/
theorem renderDocument_nests_item :
    ∃ tokens, bracketTokens "[list]\n[*]x\n[/list]" = some tokens ∧
      (∀ t ∈ tokens, (ReadTag.ofToken t).name ∈ tagNames) ∧
      nests [] (tokens.map ReadTag.ofToken) = true := by
  have htext : (Node.mk .plainText [("value", .value (.text "x"))] []).PrintsPlain := by
    refine ⟨fun name hname v hv => ?_, nofun, nofun⟩
    cases List.mem_singleton.1 hname
    cases hv
    decide
  have hnodes : ∀ n ∈ (Node.mk .plainList [("type", .value (.text "unordered"))]
      [.mk .item [] [.mk .plainText [("value", .value (.text "x"))] []]]).preorder,
      n.PrintsPlain := by
    intro n hn
    rcases List.mem_cons.1 hn with rfl | hn
    · exact ⟨nofun, nofun, nofun⟩
    · rcases List.mem_cons.1 hn with rfl | hn
      · refine ⟨nofun, fun name _ v s hv => ?_, nofun⟩
        cases hv
      · cases List.mem_singleton.1 hn
        exact htext
  exact renderDocument_nests (o := {}) hnodes (by decide) (by decide) rfl

end ForumMarkup
