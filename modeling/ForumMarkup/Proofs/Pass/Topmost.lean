import ForumMarkup.Proofs.Pass.Level
/-
**The topmost headlines of a text.**

Levels are counted from the least one that any headline of the document states, whether a pass
writes that headline or not.  So the topmost headlines of a text are on level one if one of them
states the least level.  A headline that is left out, or that stands in a definition to which
nothing refers, has no part in the text; but if it states a lower level than all that are written,
it moves them down.

Main definitions:

* `ForumMarkup.LevelsStated` — all headlines of a document state positive levels;
* `ForumMarkup.renderedHeadlines` — the headlines that a pass writes, in order;
* `ForumMarkup.TopmostWritten` — what is said of the topmost headlines of a text.

Main results:

* `ForumMarkup.renderDocument_topmost` — **the level of the topmost headlines** in the text of a
  document;
* `ForumMarkup.renderDocument_topmost_suppressed` — it is not always the first.
-/

set_option autoImplicit false

namespace ForumMarkup

/-- Whether a headline states a positive level. -/
def Node.statesLevel (n : Node) : Bool :=
  match n.value? "level" with
  | some (.int k) => 0 < k
  | _ => false

/-- All headlines of a document state positive levels. -/
def LevelsStated (root : Node) : Prop :=
  ∀ n ∈ root.preorder, n.kind = .headline → n.statesLevel = true

instance (root : Node) : Decidable (LevelsStated root) :=
  inferInstanceAs (Decidable (∀ n ∈ root.preorder, n.kind = .headline → n.statesLevel = true))

/-- The headline that is written from a point on. -/
def Point.headline? : Point → Option Node
  | .level n => some n
  | _ => none

/-- The headlines that a pass over a document writes, in order. -/
def renderedHeadlines (root : Node) : List Node :=
  ((Scope.ofDocument root).documentPoints root).filterMap Point.headline?

variable {root : Node}

theorem mem_renderedHeadlines {n : Node} : n ∈ renderedHeadlines root ↔ IsRendered root n := by
  rw [isRendered_iff, renderedHeadlines, List.mem_filterMap]
  constructor
  · rintro ⟨m, hm, hn⟩
    cases m with
    | level n' =>
        cases hn
        exact hm
    | _ => cases hn
  · intro h
    exact ⟨.level n, h, rfl⟩

/-! ### Levels that are stated -/

theorem Node.statesLevel_iff {n : Node} :
    n.statesLevel = true ↔ ∃ k, n.value? "level" = some (.int k) ∧ 0 < k := by
  rw [statesLevel]
  cases n.value? "level" with
  | none => simp
  | some v => cases v <;> simp

theorem Node.statedLevel?_of_statesLevel {n : Node} (h : n.statesLevel = true) :
    ∃ k, n.statedLevel? = some k := by
  obtain ⟨k, hk, -⟩ := statesLevel_iff.1 h
  exact ⟨k, by rw [statedLevel?, hk]⟩

theorem LevelsStated.levelsFit (h : LevelsStated root) : LevelsFit root := by
  intro n hn hkind
  obtain ⟨k, hk, hpos⟩ := Node.statesLevel_iff.1 (h n hn hkind)
  rw [Node.levelFits, hk]
  exact decide_eq_true hpos

/-- The least level of a document is stated by one of its headlines. -/
theorem exists_statedLevel?_eq_leastLevel (h : statedLevels root ≠ []) :
    ∃ n ∈ root.preorder, n.kind = .headline ∧ n.statedLevel? = some (leastLevel root) := by
  cases hmin : (statedLevels root).min? with
  | none => exact absurd (List.min?_eq_none_iff.1 hmin) h
  | some k =>
      obtain ⟨n, hn, hk⟩ := List.mem_filterMap.1 (List.min?_mem hmin)
      obtain ⟨hmem, hkind⟩ := List.mem_filter.1 hn
      exact ⟨n, hmem, by simpa using hkind, by rw [hk, leastLevel, hmin]; rfl⟩

/-! ### The topmost headlines -/

/-- What is said of the topmost headlines of a text.  Here `least` is the least level that the
headlines state which a pass writes. -/
structure TopmostWritten (o : Options) (root : Node) (text : String) (least : Int) : Prop where
  stated : ((renderedHeadlines root).filterMap Node.statedLevel?).min? = some least
  /-- The topmost headlines are written on the level that is counted from the least of all headlines
  of the document. -/
  written : ((renderedHeadlines root).map (levelIn root)).min? = some (least - leastLevel root + 1)
  /-- That is the first level exactly when no headline which is not written states a lower level
  than those that are. -/
  first : least - leastLevel root + 1 = 1 ↔
    ∀ n ∈ root.preorder, n.kind = .headline → n ∉ renderedHeadlines root →
      ∀ k, n.statedLevel? = some k → least ≤ k
  /-- The text shows each of these headlines with the mark of its level. -/
  shown : ∀ n ∈ renderedHeadlines root, ∃ mark, levelMark? (levelIn root n) = some mark ∧
    ∃ before after, text = before ++ ("[b][u]" ++ mark ++ titleIn o root n ++ "[/u][/b]") ++ after

/-- Levels that are counted from the same level keep their order. -/
theorem min?_map_levelIn {ns : List Node} {least : Int}
    (hstated : ∀ n ∈ ns, ∃ k, n.statedLevel? = some k)
    (hleast : (ns.filterMap Node.statedLevel?).min? = some least) :
    (ns.map (levelIn root)).min? = some (least - leastLevel root + 1) := by
  obtain ⟨hmem, hle⟩ := List.min?_eq_some_iff.1 hleast
  have hlevel : ∀ {n : Node} {k : Int}, n.statedLevel? = some k →
      levelIn root n = k - leastLevel root + 1 := by
    intro n k hk
    rw [levelIn, hk]
    rfl
  refine List.min?_eq_some_iff.2 ⟨?_, fun level hmem' => ?_⟩
  · obtain ⟨n, hn, hk⟩ := List.mem_filterMap.1 hmem
    exact List.mem_map.2 ⟨n, hn, hlevel hk⟩
  · obtain ⟨n, hn, rfl⟩ := List.mem_map.1 hmem'
    obtain ⟨k, hk⟩ := hstated n hn
    have hlek : least ≤ k := hle k (List.mem_filterMap.2 ⟨n, hn, hk⟩)
    rw [hlevel hk]
    omega

/-- The least level of a document is stated by a headline that is written, or else by one that is
not. -/
theorem least_eq_iff {least : Int}
    (hleast : ((renderedHeadlines root).filterMap Node.statedLevel?).min? = some least) :
    least - leastLevel root + 1 = 1 ↔
      ∀ n ∈ root.preorder, n.kind = .headline → n ∉ renderedHeadlines root →
        ∀ k, n.statedLevel? = some k → least ≤ k := by
  obtain ⟨hmem, hle⟩ := List.min?_eq_some_iff.1 hleast
  obtain ⟨n, hn, hstated⟩ := List.mem_filterMap.1 hmem
  have hrendered := mem_renderedHeadlines.1 hn
  have hpreorder := hrendered.1.mem_preorder
  have hlower : leastLevel root ≤ least := leastLevel_le hpreorder hrendered.2.1 hstated
  constructor
  · intro hone n' hn' hkind _ k hk
    have := leastLevel_le hn' hkind hk
    omega
  · intro hothers
    have hne : statedLevels root ≠ [] := by
      refine List.ne_nil_of_mem (List.mem_filterMap.2 ⟨n, ?_, hstated⟩)
      exact List.mem_filter.2 ⟨hpreorder, decide_eq_true hrendered.2.1⟩
    obtain ⟨m, hm, hkind, hk⟩ := exists_statedLevel?_eq_leastLevel hne
    -- The headline with the least level of the document is written, or is none of those below.
    have hupper : least ≤ leastLevel root := by
      by_cases hmem : m ∈ renderedHeadlines root
      · exact hle _ (List.mem_filterMap.2 ⟨m, hmem, hk⟩)
      · exact hothers m hm hkind hmem _ hk
    omega

/-- **The level of the topmost headlines** in the text of a document, if it has any. -/
theorem renderDocument_topmost {o : Options} {text : String} (hstated : LevelsStated root)
    (h : (renderDocument o root).1 = .ok text) (hsome : renderedHeadlines root ≠ []) :
    ∃ least, TopmostWritten o root text least := by
  have hfit := hstated.levelsFit
  have hlevels : ∀ n ∈ renderedHeadlines root, ∃ k, n.statedLevel? = some k := by
    intro n hn
    obtain ⟨hreached, hkind, -⟩ := mem_renderedHeadlines.1 hn
    exact Node.statedLevel?_of_statesLevel (hstated n hreached.mem_preorder hkind)
  have hne : (renderedHeadlines root).filterMap Node.statedLevel? ≠ [] := by
    obtain ⟨n, hn⟩ := List.exists_mem_of_ne_nil _ hsome
    obtain ⟨k, hk⟩ := hlevels n hn
    exact List.ne_nil_of_mem (List.mem_filterMap.2 ⟨n, hn, hk⟩)
  cases hleast : ((renderedHeadlines root).filterMap Node.statedLevel?).min? with
  | none => exact absurd (List.min?_eq_none_iff.1 hleast) hne
  | some least =>
      refine ⟨least, hleast, min?_map_levelIn hlevels hleast, least_eq_iff hleast, fun n hn => ?_⟩
      have hrendered := mem_renderedHeadlines.1 hn
      obtain ⟨mark, hmark, hline⟩ :=
        levelMark?_levelIn hfit hrendered (abort?_of_renderDocument_ok h)
      exact ⟨mark, hmark, hline ▸ exists_eq_of_isRendered h hrendered⟩

/-- A headline that is left out and states the same level as the topmost one does not move it. -/
theorem renderDocument_topmost_same :
    let headline (level : Int) (ps : List (String × Property)) : Node :=
      .mk .headline (("level", .value (.int level)) :: ("title", .value (.text "a")) :: ps) []
    let root : Node := .mk .orgData []
      [headline 2 [("footnote_section_p", .value (.bool true))], headline 3 [], headline 2 []]
    let text := "[b][u]== a[/u][/b]\n\n[b][u]# a[/u][/b]\n\n"
    LevelsStated root ∧ (renderDocument {} root).1 = .ok text ∧ renderedHeadlines root ≠ [] ∧
      ∃ least, TopmostWritten {} root text least := by
  intro headline root text
  have hstated : LevelsStated root := by decide
  have hsome : renderedHeadlines root ≠ [] := List.cons_ne_nil _ _
  exact ⟨hstated, rfl, hsome, renderDocument_topmost hstated rfl hsome⟩

/-- A headline that is left out, or that stands in a definition to which nothing refers, moves the
others down where it states a lower level than they do. -/
theorem renderDocument_topmost_suppressed :
    (let shown : Node :=
        .mk .headline [("level", .value (.int 3)), ("title", .value (.text "A"))] []
      let suppressed : Node := .mk .headline
        [("level", .value (.int 1)), ("title", .value (.text "Footnotes")),
          ("footnote_section_p", .value (.bool true))] []
      let root : Node := .mk .orgData [] [shown, suppressed]
      LevelsStated root ∧ renderedHeadlines root = [shown] ∧
        ((renderedHeadlines root).map (levelIn root)).min? = some 3 ∧
        (renderDocument {} root).1 = .ok "[b][u]+++ A[/u][/b]\n\n") ∧
      let shown : Node :=
        .mk .headline [("level", .value (.int 2)), ("title", .value (.text "A"))] []
      let definition : Node := .mk .footnoteDefinition [("label", .value (.text "a"))]
        [.mk .headline [("level", .value (.int 1)), ("title", .value (.text "B"))] []]
      let root : Node := .mk .orgData [] [shown, definition]
      LevelsStated root ∧ renderedHeadlines root = [shown] ∧
        ((renderedHeadlines root).map (levelIn root)).min? = some 2 ∧
        (renderDocument {} root).1 = .ok "[b][u]== A[/u][/b]\n\n" :=
  ⟨⟨by decide, rfl, by decide, rfl⟩, by decide, rfl, by decide, rfl⟩

end ForumMarkup
