import ForumMarkup.Proofs.Pass.Heading
/-
**The levels of headlines.**

The levels of headlines are counted from the least one that a headline of the document states, and
that headline is on level one.  Level zero has no mark; it belongs to the title over the footnotes.
A headline that states no level is counted as one that states the first level, but it takes no part
in finding the least one.  So it is on level zero itself beside headlines that state the second
level or a lower one, and it is refused where all of them state a lower one.

Main definitions:

* `ForumMarkup.LevelsFit` — the headlines of a document state positive levels, if any;
* `ForumMarkup.leastLevel`, `ForumMarkup.levelIn` — the least level that is stated in a document,
  and the level of a headline that is counted from it;
* `ForumMarkup.headings` — the levels of the lines of headlines in a document, in order;
* `ForumMarkup.HeadlinesLevelled` — what is said of the levels in the text of a document.

Main results:

* `ForumMarkup.topLevel_eq_of_ne_bool` — what a pass takes for the least level;
* `ForumMarkup.writtenLevel_eq` — the level at which a pass writes a headline;
* `ForumMarkup.renderDocument_levels` — **the levels of headlines** in the text of a document;
* `ForumMarkup.renderDocument_levels_zero` — a headline can be on level zero.
-/

set_option autoImplicit false

namespace ForumMarkup

/-! ### Levels that headlines state -/

/-- The level that a headline states. -/
def Node.statedLevel? (n : Node) : Option Int :=
  match n.value? "level" with
  | some (.int k) => some k
  | _ => none

/-- Whether a headline states a positive level, or none at all. -/
def Node.levelFits (n : Node) : Bool :=
  match n.value? "level" with
  | none => true
  | some (.int k) => 0 < k
  | _ => false

/-- Whether the headlines of a document state positive levels, if any. -/
def LevelsFit (root : Node) : Prop :=
  ∀ n ∈ root.preorder, n.kind = .headline → n.levelFits = true

instance (root : Node) : Decidable (LevelsFit root) :=
  inferInstanceAs (Decidable (∀ n ∈ root.preorder, n.kind = .headline → n.levelFits = true))

/-- The levels that the headlines of a document state. -/
def statedLevels (root : Node) : List Int :=
  (root.preorder.filter fun n => n.kind = .headline).filterMap Node.statedLevel?

/-- The least level that a headline of a document states; one if none states any. -/
def leastLevel (root : Node) : Int :=
  (statedLevels root).min?.getD 1

/-- The level of a headline, counted from the least one.  A headline that states no level counts as
one that states the first level. -/
def levelIn (root n : Node) : Int :=
  n.statedLevel?.getD 1 - leastLevel root + 1

theorem foldl_lesserLevel (k : Int) (ks : List Int) :
    (ks.map Value.int).foldl lesserLevel (.int k) = .int (ks.foldl min k) := by
  induction ks generalizing k with
  | nil => rfl
  | cons k' ks ih =>
      have hmin : lesserLevel (.int k) (.int k') = .int (min k k') := by
        have hmin : (if k' < k then k' else k) = min k k' := by omega
        rw [← hmin, lesserLevel]
        exact (apply_ite Value.int _ _ _).symm
      rw [List.map_cons, List.foldl_cons, List.foldl_cons, hmin, ih]

variable {o : Options} {root : Node} (hfit : LevelsFit root)

/-- The level that a pass counts from is the least one that is stated, if no truth value is. -/
theorem topLevel_eq_of_ne_bool
    (h : ∀ n ∈ root.preorder, n.kind = .headline → ∀ b, n.value? "level" ≠ some (.bool b)) :
    (Scope.ofDocument root).topLevel = .int (leastLevel root) := by
  have hlevels : root.preorder.filterMap levelOf? = (statedLevels root).map Value.int := by
    rw [statedLevels, List.map_filterMap, List.filterMap_filter]
    refine List.filterMap_congr fun n hn => ?_
    by_cases hkind : n.kind = .headline
    · have hn := h n hn hkind
      simp only [levelOf?, Node.statedLevel?, hkind]
      cases hv : n.value? "level" with
      | none => simp
      | some v => cases v <;> simp_all
    · simp [levelOf?, hkind]
  change topLevelOf root.preorder = _
  rw [topLevelOf, hlevels, leastLevel]
  cases statedLevels root with
  | nil => rfl
  | cons k ks => exact foldl_lesserLevel k ks

include hfit in
theorem topLevel_eq : (Scope.ofDocument root).topLevel = .int (leastLevel root) := by
  refine topLevel_eq_of_ne_bool fun n hn hkind b hb => ?_
  have hn := hfit n hn hkind
  rw [Node.levelFits, hb] at hn
  cases hn

include hfit in
theorem statedLevels_pos {k : Int} (hk : k ∈ statedLevels root) : 0 < k := by
  obtain ⟨n, hn, hstated⟩ := List.mem_filterMap.1 hk
  obtain ⟨hmem, hkind⟩ := List.mem_filter.1 hn
  have hn := hfit n hmem (by simpa using hkind)
  unfold Node.statedLevel? at hstated
  split at hstated
  · rename_i hv
    cases hstated
    simpa [Node.levelFits, hv] using hn
  · cases hstated

include hfit in
theorem leastLevel_pos : 0 < leastLevel root := by
  unfold leastLevel
  cases hmin : (statedLevels root).min? with
  | none => decide
  | some k => exact statedLevels_pos hfit (List.min?_mem hmin)

theorem leastLevel_le {n : Node} (hn : n ∈ root.preorder) (hkind : n.kind = .headline) {k : Int}
    (hk : n.statedLevel? = some k) : leastLevel root ≤ k := by
  have hheadline : n ∈ root.preorder.filter fun n => n.kind = .headline :=
    List.mem_filter.2 ⟨hn, decide_eq_true hkind⟩
  have hmem : k ∈ statedLevels root := List.mem_filterMap.2 ⟨n, hheadline, hk⟩
  unfold leastLevel
  cases hmin : (statedLevels root).min? with
  | none => simp [List.min?_eq_none_iff.1 hmin] at hmem
  | some k' => exact (List.min?_eq_some_iff.1 hmin).2 k hmem

/-! ### The level of a headline -/

theorem levelMark?_bounds {k : Int} {mark : String} (h : levelMark? k = some mark) :
    0 ≤ k ∧ k ≤ 5 := by
  unfold levelMark? at h
  split at h
  case h_7 => cases h
  all_goals exact ⟨by decide, by decide⟩

theorem levelAbort?_int {k : Int} (h : levelAbort? (.int k) = none) :
    ∃ mark, levelMark? k = some mark ∧ markOf (.int k) = mark := by
  cases hmark : levelMark? k with
  | none => simp [levelAbort?, headlineMark, hmark] at h
  | some mark => exact ⟨mark, rfl, by simp [markOf, headlineMark, hmark]⟩

include hfit in
/-- The level at which a headline is written is the one that is counted from the least. -/
theorem writtenLevel_eq {n : Node} (hn : n ∈ root.preorder) (hkind : n.kind = .headline) :
    writtenLevel (some (.ofDocument root)) n.properties = .int (levelIn root n) := by
  have hfits := hfit n hn hkind
  have hrelative : ∀ k, (Scope.ofDocument root).relativeLevel k = k - leastLevel root + 1 := by
    intro k
    rw [Scope.relativeLevel, topLevel_eq hfit]
    rfl
  have hvalue : n.value? "level" = Node.valueIn? "level" n.properties := rfl
  unfold Node.levelFits at hfits
  unfold writtenLevel levelIn Node.statedLevel?
  rw [hvalue] at hfits ⊢
  split at hfits
  · rename_i hv
    simp [hv, hrelative]
  · rename_i k hv
    simp [hv, hrelative]
  · cases hfits

include hfit in
/-- In a pass that succeeds, the level of each headline has a mark, which is the one written. -/
theorem levelMark?_levelIn {n : Node} (hn : IsRendered root n)
    (hnone : ∀ m ∈ (Scope.ofDocument root).documentPoints root,
      m.abort? (.ofDocument o root) = none) :
    ∃ mark, levelMark? (levelIn root n) = some mark ∧
      markOf (writtenLevel (some (.ofDocument root)) n.properties) = mark := by
  obtain ⟨hreached, hkind, hsuppressed⟩ := hn
  have hpoint := hnone _ (Scope.reached_iff.1.1 hreached)
  have hlevel := writtenLevel_eq hfit hreached.mem_preorder hkind
  obtain ⟨kind, ps, cs⟩ := n
  cases hkind
  change (if isSuppressed ps then none
    else levelAbort? (writtenLevel (some (.ofDocument root)) ps)) = none at hpoint
  have hsuppressed : isSuppressed ps = false := hsuppressed
  have hlevel : writtenLevel (some (.ofDocument root)) ps =
      .int (levelIn root (.mk .headline ps cs)) := hlevel
  rw [hsuppressed, if_neg Bool.false_ne_true, hlevel] at hpoint
  change ∃ mark, _ ∧ markOf (writtenLevel (some (.ofDocument root)) ps) = _
  rw [hlevel]
  exact levelAbort?_int hpoint

/-! ### Headings in order -/

/-- The level of the headline that is written from a point on. -/
def Point.heading? (root : Node) : Point → Option Int
  | .level n => some (levelIn root n)
  | _ => none

/-- The levels of the headlines that are written from points on, in order. -/
def headingsIn (root : Node) (ms : List Point) : List Int :=
  ms.filterMap (Point.heading? root)

/-- The levels of the headlines of a document, in order: after those of the body comes the title
over the footnotes, if there are any, on level zero. -/
def headings (root : Node) : List Int :=
  headingsIn root (root.points false) ++
    if citedBy root = [] then []
    else 0 :: (citedBy root).eraseDups.flatMap fun label =>
      headingsIn root ((Scope.ofDocument root).notePoints label)

theorem mem_headingsIn {ms : List Point} {k : Int} :
    k ∈ headingsIn root ms ↔ ∃ n, .level n ∈ ms ∧ levelIn root n = k := by
  constructor
  · intro h
    obtain ⟨m, hm, hk⟩ := List.mem_filterMap.1 h
    cases m with
    | level n => exact ⟨n, hm, Option.some.inj hk⟩
    | _ => cases hk
  · rintro ⟨n, hn, rfl⟩
    exact List.mem_filterMap.2 ⟨_, hn, rfl⟩

/-! ### Whole documents -/

/-- The title of a headline as the text of a document shows it. -/
def titleIn (o : Options) (root n : Node) : String :=
  written (citedBy root).eraseDups
    (passagePieces (passEnvironment o root) trimPieces "title" n.properties)

/-- What is said of the levels of the headlines in the text of a document. -/
structure HeadlinesLevelled (o : Options) (root : Node) (text : String) : Prop where
  /-- The text shows the line of each headline, with the mark of its level. -/
  shown : ∀ n, IsRendered root n → ∃ mark, levelMark? (levelIn root n) = some mark ∧
    ∃ before after, text = before ++ ("[b][u]" ++ mark ++ titleIn o root n ++ "[/u][/b]") ++ after
  /-- A headline that states a level is on one of the levels from one to five. -/
  stated : ∀ n, IsRendered root n → n.statedLevel? ≠ none →
    1 ≤ levelIn root n ∧ levelIn root n ≤ 5
  /-- A headline that states none is on level one or zero, as the least level is one or two. -/
  unstated : ∀ n, IsRendered root n → n.statedLevel? = none →
    leastLevel root = 1 ∧ levelIn root n = 1 ∨ leastLevel root = 2 ∧ levelIn root n = 0
  /-- The title over the footnotes, if there are any, is on level zero and shown without a mark. -/
  title : citedBy root ≠ [] → levelMark? 0 = some "" ∧
    ∃ before after, text = before ++ ("[b][u]" ++ o.footnoteTitle ++ "[/u][/b]") ++ after
  /-- Level zero is kept for the title over the footnotes if the least level is one, or if all
  headlines state their level, and not otherwise. -/
  reserved : (∀ n, IsRendered root n → levelIn root n ≠ 0) ↔
    leastLevel root = 1 ∨ ∀ n, IsRendered root n → n.statedLevel? ≠ none
  /-- Where it is kept, it is the level of that title alone. -/
  once : (∀ n, IsRendered root n → levelIn root n ≠ 0) →
    (headings root).count 0 = if citedBy root = [] then 0 else 1

section

variable {text : String}

/-- What is found in the pieces of a document is found in its text. -/
theorem exists_eq_of_infix {ps : List Piece} (h : (renderDocument o root).1 = .ok text)
    (hps : ps <:+: outputPieces o root) :
    ∃ before after, text = before ++ written (citedBy root).eraseDups ps ++ after := by
  obtain ⟨before, after, hpieces⟩ := hps
  refine ⟨written (citedBy root).eraseDups before, written (citedBy root).eraseDups after, ?_⟩
  rw [renderDocument_ok h, notes_eq_eraseDups (abort?_of_renderDocument_ok h), ← hpieces,
    written_append, written_append]

/-- The text shows the line of each headline. -/
theorem exists_eq_of_isRendered {n : Node} (h : (renderDocument o root).1 = .ok text)
    (hn : IsRendered root n) :
    ∃ before after, text = before ++ ("[b][u]" ++
      markOf (writtenLevel (some (.ofDocument root)) n.properties) ++ titleIn o root n ++
        "[/u][/b]") ++ after := by
  have hline := exists_eq_of_infix h (line_infix_outputPieces (o := o) (isRendered_iff.1 hn))
  rwa [lineOf, written_headingPieces] at hline

/-- The text shows the title over the footnotes. -/
theorem exists_eq_of_citedBy_ne_nil (h : (renderDocument o root).1 = .ok text)
    (hcited : citedBy root ≠ []) :
    ∃ before after, text = before ++ ("[b][u]" ++ o.footnoteTitle ++ "[/u][/b]") ++ after := by
  have hnotes : (Scope.ofDocument root).notes root ≠ [] := by
    rwa [notes_eq_eraseDups (abort?_of_renderDocument_ok h), ne_eq, eraseDups_eq_nil]
  have htitle := exists_eq_of_infix h (title_infix_outputPieces hnotes)
  rw [written_headingPieces, written_letters] at htitle
  exact htitle

end

/-- If no headline is on level zero, only the title over the footnotes is. -/
theorem count_headings
    (hnone : ∀ m ∈ (Scope.ofDocument root).documentPoints root,
      m.abort? (.ofDocument o root) = none)
    (hzero : ∀ n, IsRendered root n → levelIn root n ≠ 0) :
    (headings root).count 0 = if citedBy root = [] then 0 else 1 := by
  have hnot : ∀ ms ⊆ (Scope.ofDocument root).documentPoints root, 0 ∉ headingsIn root ms := by
    intro ms hms hmem
    obtain ⟨n, hn, hlevel⟩ := mem_headingsIn.1 hmem
    exact hzero n (isRendered_iff.2 (hms hn)) hlevel
  have hbody : 0 ∉ headingsIn root (root.points false) :=
    hnot _ fun m hm => by simp [Scope.documentPoints, hm]
  have hnotes : 0 ∉ (citedBy root).eraseDups.flatMap fun label =>
      headingsIn root ((Scope.ofDocument root).notePoints label) := by
    intro hmem
    obtain ⟨label, hl, hmem⟩ := List.mem_flatMap.1 hmem
    rw [← notes_eq_eraseDups hnone] at hl
    exact hnot _ (Scope.notePoints_subset _ hl) hmem
  rw [headings, List.count_append, List.count_eq_zero_of_not_mem hbody, Nat.zero_add]
  split
  · rfl
  · rw [List.count_cons_self, List.count_eq_zero_of_not_mem hnotes]

include hfit in
/-- The levels that a pass writes. -/
theorem levelIn_cases {n : Node} (hn : IsRendered root n) (hlower : 0 ≤ levelIn root n) :
    (n.statedLevel? ≠ none ∧ 1 ≤ levelIn root n) ∨
      n.statedLevel? = none ∧ (leastLevel root = 1 ∧ levelIn root n = 1 ∨
        leastLevel root = 2 ∧ levelIn root n = 0) := by
  have hpos := leastLevel_pos hfit
  cases hstated : n.statedLevel? with
  | some k =>
      have hle := leastLevel_le hn.1.mem_preorder hn.2.1 hstated
      have hlevel : levelIn root n = k - leastLevel root + 1 := by simp [levelIn, hstated]
      exact .inl ⟨nofun, by omega⟩
  | none =>
      have hlevel : levelIn root n = 1 - leastLevel root + 1 := by simp [levelIn, hstated]
      exact .inr ⟨rfl, by omega⟩

/-- **The levels of headlines** in the text of a document. -/
theorem renderDocument_levels {text : String} (hfit : LevelsFit root)
    (h : (renderDocument o root).1 = .ok text) : HeadlinesLevelled o root text := by
  have hnone := abort?_of_renderDocument_ok h
  have hbounds : ∀ n, IsRendered root n → 0 ≤ levelIn root n ∧ levelIn root n ≤ 5 := by
    intro n hn
    obtain ⟨mark, hmark, -⟩ := levelMark?_levelIn hfit hn hnone
    exact levelMark?_bounds hmark
  have hcases := fun n hn => levelIn_cases hfit hn (hbounds n hn).1
  refine
    { shown := fun n hn => ?_
      stated := fun n hn hstated => ?_
      unstated := fun n hn hstated => ?_
      title := fun hcited => ⟨rfl, exists_eq_of_citedBy_ne_nil h hcited⟩
      reserved := ⟨fun hzero => ?_, fun hleast n hn => ?_⟩
      once := count_headings hnone }
  · obtain ⟨mark, hmark, hline⟩ := levelMark?_levelIn hfit hn hnone
    exact ⟨mark, hmark, hline ▸ exists_eq_of_isRendered h hn⟩
  · rcases hcases n hn with ⟨-, hlower⟩ | ⟨hunstated, -⟩
    · exact ⟨hlower, (hbounds n hn).2⟩
    · exact absurd hunstated hstated
  · rcases hcases n hn with ⟨hne, -⟩ | ⟨-, hlevel⟩
    · exact absurd hstated hne
    · exact hlevel
  · by_cases hleast : leastLevel root = 1
    · exact .inl hleast
    · refine .inr fun n hn hstated => ?_
      rcases hcases n hn with ⟨hne, -⟩ | ⟨-, ⟨hone, -⟩ | ⟨-, hlevel⟩⟩
      · exact hne hstated
      · exact hleast hone
      · exact hzero n hn hlevel
  · rcases hcases n hn with ⟨-, hlower⟩ | ⟨hunstated, ⟨-, hone⟩ | ⟨htwo, -⟩⟩
    · omega
    · omega
    · rcases hleast with hone | hstated
      · omega
      · exact absurd hunstated (hstated n hn)

/-- Headlines that state their levels, from the second one on. -/
theorem renderDocument_levels_second :
    let headline (level : Int) : Node :=
      .mk .headline [("level", .value (.int level)), ("title", .value (.text "a"))] []
    let root : Node := .mk .orgData [] [headline 3, headline 2]
    LevelsFit root ∧ HeadlinesLevelled {} root
      "[b][u]== a[/u][/b]\n\n[b][u]# a[/u][/b]\n\n" := by
  intro headline root
  have hfit : LevelsFit root := by decide
  exact ⟨hfit, renderDocument_levels hfit rfl⟩

/-- A headline that states no level beside one that states the second is on level zero, which has no
mark: the least level is found without it, but counted from as if it were on the first level. -/
theorem renderDocument_levels_zero :
    let stated : Node :=
      .mk .headline [("level", .value (.int 2)), ("title", .value (.text "A"))] []
    let unstated : Node := .mk .headline [("title", .value (.text "B"))] []
    let root : Node := .mk .orgData [] [stated, unstated]
    LevelsFit root ∧ IsRendered root unstated ∧ levelIn root unstated = 0 ∧
      (renderDocument {} root).1 = .ok "[b][u]# A[/u][/b]\n\n[b][u]B[/u][/b]\n\n" := by
  intro stated unstated root
  refine ⟨by decide, ⟨.child .root rfl ?_, rfl, rfl⟩, by decide, rfl⟩
  exact List.mem_cons_of_mem _ List.mem_cons_self

end ForumMarkup
