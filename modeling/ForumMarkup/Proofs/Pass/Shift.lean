import ForumMarkup.Proofs.Pass.Level
import ForumMarkup.Proofs.Pass.Recast
/-
**Shifted levels.**

Levels are counted from the least one of the document, so only their differences show.  Adding a
number to all of them moves the least one by as much, and every headline is written, or refused, as
before.  This needs that every headline states a level: one that states none would stay where it is.
A truth value would stay too, while it counts as an integer for the least level.

Main definitions:

* `ForumMarkup.Node.shiftLevels` — a tree with a number added to the levels of its headlines;
* `ForumMarkup.LevelsSettled` — every headline states a level, and none a truth value.

Main results:

* `ForumMarkup.leastLevel_shiftLevels` — the least level moves with the others;
* `ForumMarkup.relativeLevel_shiftLevels` — levels stay where they are, counted from the least one;
* `ForumMarkup.renderDocument_shiftLevels` — **shifted levels change nothing in a pass**.
-/

set_option autoImplicit false

namespace ForumMarkup

/-! ### Shifted levels -/

/-- An integer with another one added; other values stay. -/
def Value.shift (k : Int) : Value → Value
  | .int level => .int (level + k)
  | v => v

/-- A value with a number added if it is the level of a headline. -/
def shiftLevel (k : Int) (kind : Kind) (name : String) (v : Value) : Value :=
  if kind = .headline ∧ name = "level" then v.shift k else v

/-- A tree with a number added to all levels of its headlines, wherever they stand in it. -/
def Node.shiftLevels (k : Int) : Node → Node :=
  Node.edit { value := shiftLevel k }

/-- Whether a headline states a level that is no truth value. -/
def Node.levelSettled (n : Node) : Bool :=
  match n.value? "level" with
  | none => false
  | some (.bool _) => false
  | some _ => true

/-- All headlines of a document state levels, and none a truth value. -/
def LevelsSettled (root : Node) : Prop :=
  ∀ n ∈ root.preorder, n.kind = .headline → n.levelSettled = true

instance (root : Node) : Decidable (LevelsSettled root) :=
  inferInstanceAs (Decidable (∀ n ∈ root.preorder, n.kind = .headline → n.levelSettled = true))

variable (k : Int)

theorem shiftLevel_of_ne_level {name : String} (hname : name ≠ "level") (kind : Kind) (v : Value) :
    shiftLevel k kind name v = v :=
  if_neg fun h => hname h.2

theorem value?_shiftLevels {n : Node} (hkind : n.kind = .headline) :
    (n.shiftLevels k).value? "level" = (n.value? "level").map (Value.shift k) := by
  rw [Node.value?, Node.shiftLevels, properties_edit, valueIn?_edit, hkind]
  rfl

theorem statedLevel?_shiftLevels {n : Node} (hkind : n.kind = .headline) :
    (n.shiftLevels k).statedLevel? = n.statedLevel?.map (· + k) := by
  rw [Node.statedLevel?, value?_shiftLevels k hkind, Node.statedLevel?]
  rcases n.value? "level" with _ | v
  · rfl
  · cases v <;> rfl

theorem levelSettled_shiftLevels {n : Node} (hkind : n.kind = .headline) :
    (n.shiftLevels k).levelSettled = n.levelSettled := by
  rw [Node.levelSettled, value?_shiftLevels k hkind, Node.levelSettled]
  rcases n.value? "level" with _ | v
  · rfl
  · cases v <;> rfl

variable {root : Node}

theorem preorder_shiftLevels :
    (root.shiftLevels k).preorder = root.preorder.map (Node.shiftLevels k) :=
  preorder_edit _ (fun _ _ => rfl) root

theorem LevelsSettled.shiftLevels (h : LevelsSettled root) :
    LevelsSettled (root.shiftLevels k) := by
  intro n' hn' hkind
  rw [preorder_shiftLevels] at hn'
  obtain ⟨n, hn, rfl⟩ := List.mem_map.1 hn'
  have hheadline : n.kind = .headline := (kind_edit _ n).symm.trans hkind
  rw [levelSettled_shiftLevels k hheadline]
  exact h n hn hheadline

/-! ### The least level moves with the others -/

theorem LevelsSettled.topLevel_eq (h : LevelsSettled root) :
    (Scope.ofDocument root).topLevel = .int (leastLevel root) := by
  refine topLevel_eq_of_ne_bool fun n hn hkind b hb => ?_
  have hsettled := h n hn hkind
  rw [Node.levelSettled, hb] at hsettled
  cases hsettled

theorem statedLevels_shiftLevels :
    statedLevels (root.shiftLevels k) = (statedLevels root).map (· + k) := by
  have hheadlines : ∀ ns : List Node,
      (ns.map (Node.shiftLevels k)).filter (fun n => n.kind = .headline) =
        (ns.filter fun n => n.kind = .headline).map (Node.shiftLevels k) := by
    intro ns
    rw [List.filter_map]
    simp [Function.comp_def, Node.shiftLevels]
  rw [statedLevels, statedLevels, preorder_shiftLevels, hheadlines, List.filterMap_map,
    List.map_filterMap]
  refine List.filterMap_congr fun n hn => ?_
  have hkind : n.kind = .headline := by simpa using (List.mem_filter.1 hn).2
  exact statedLevel?_shiftLevels k hkind

theorem leastLevel_shiftLevels (h : statedLevels root ≠ []) :
    leastLevel (root.shiftLevels k) = leastLevel root + k := by
  rw [leastLevel, leastLevel, statedLevels_shiftLevels]
  cases hlevels : statedLevels root with
  | nil => exact absurd hlevels h
  | cons j js =>
      have hstep : ∀ a b : Int, min (a + k) (b + k) = min a b + k := by omega
      have hmin : (js.map (· + k)).foldl min (j + k) = js.foldl min j + k := by
        rw [List.foldl_map]
        exact List.foldl_hom (· + k) hstep
      exact hmin

/-- Levels that are stated stay where they are, counted from the least one. -/
theorem relativeLevel_shiftLevels (h : LevelsSettled root) {j : Int} (hj : j ∈ statedLevels root) :
    (Scope.ofDocument (root.shiftLevels k)).relativeLevel (j + k) =
      (Scope.ofDocument root).relativeLevel j := by
  have hleast := leastLevel_shiftLevels k (List.ne_nil_of_mem hj)
  rw [Scope.relativeLevel, Scope.relativeLevel, h.topLevel_eq, (h.shiftLevels k).topLevel_eq,
    hleast]
  change j + k - (leastLevel root + k) + 1 = j - leastLevel root + 1
  omega

/-! ### What a pass makes of it -/

section

variable (o : Options)

theorem headlineLevel_shiftLevels (h : LevelsSettled root) {n : Node} (hn : n ∈ root.preorder)
    (hkind : n.kind = .headline) :
    headlineLevel (passEnvironment o (root.shiftLevels k)) (n.shiftLevels k).properties =
      headlineLevel (passEnvironment o root) n.properties := by
  have hvalue : Node.valueIn? "level" (n.shiftLevels k).properties =
      (Node.valueIn? "level" n.properties).map (Value.shift k) := value?_shiftLevels k hkind
  have hsettled := h n hn hkind
  rw [headlineLevel, headlineLevel, hvalue]
  cases hv : Node.valueIn? "level" n.properties with
  | none =>
      rw [Node.levelSettled, Node.value?, hv] at hsettled
      cases hsettled
  | some v =>
      cases v with
      | int j =>
          have hstated : n.statedLevel? = some j := by rw [Node.statedLevel?, Node.value?, hv]
          have hmem : j ∈ statedLevels root :=
            List.mem_filterMap.2 ⟨n, List.mem_filter.2 ⟨hn, decide_eq_true hkind⟩, hstated⟩
          have hrelative := relativeLevel_shiftLevels k h hmem
          simp [Value.shift, passEnvironment, Environment.scope, hrelative]
      | _ => rfl

theorem label_shiftLevels (n : Node) :
    (n.shiftLevels k).value? "label" = n.value? "label" := by
  rw [Node.value?, Node.shiftLevels, properties_edit, valueIn?_edit_of_eq, Node.value?]
  exact fun v => shiftLevel_of_ne_level k (by decide) n.kind v

theorem definedLabel?_shiftLevels (n : Node) :
    FootnoteTable.definedLabel? (n.shiftLevels k) = FootnoteTable.definedLabel? n := by
  rw [FootnoteTable.definedLabel?, FootnoteTable.definedLabel?, label_shiftLevels,
    Node.shiftLevels, kind_edit]

theorem canCollect_shiftLevels : FootnoteTable.canCollect (root.shiftLevels k).preorder =
    FootnoteTable.canCollect root.preorder := by
  rw [preorder_shiftLevels, FootnoteTable.canCollect, FootnoteTable.canCollect, List.all_map]
  congr 1
  funext n
  rw [Function.comp_apply, FootnoteTable.labelShowable, FootnoteTable.labelShowable,
    label_shiftLevels, Node.shiftLevels, kind_edit]

/-- A definition with its node shifted. -/
def shiftDefinition (k : Int) : String × Node → String × Node :=
  Prod.map id (Node.shiftLevels k)

theorem addDefinition_shiftLevels (definitions : List (String × Node)) (n : Node) :
    FootnoteTable.addDefinition (definitions.map (shiftDefinition k)) (n.shiftLevels k) =
      (FootnoteTable.addDefinition definitions n).map (shiftDefinition k) := by
  rw [FootnoteTable.addDefinition, FootnoteTable.addDefinition, definedLabel?_shiftLevels]
  cases FootnoteTable.definedLabel? n with
  | none => rfl
  | some label =>
      simp only [shiftDefinition, lookupEntry_map, Option.isSome_map]
      split
      · rfl
      · rw [List.map_append]
        rfl

/-- The definitions of a shifted document are those of the document, shifted. -/
theorem definitions_shiftLevels : (Scope.ofDocument (root.shiftLevels k)).definitions =
    (Scope.ofDocument root).definitions.map (shiftDefinition k) := by
  have hfold : ∀ definitions : List (String × Node),
      root.preorder.foldl (fun ds n => FootnoteTable.addDefinition ds (n.shiftLevels k))
          (definitions.map (shiftDefinition k)) =
        (root.preorder.foldl FootnoteTable.addDefinition definitions).map (shiftDefinition k) :=
    fun _ => List.foldl_hom _ (addDefinition_shiftLevels k)
  change FootnoteTable.collect (root.shiftLevels k).preorder = _
  rw [preorder_shiftLevels, FootnoteTable.collect, List.foldl_map]
  exact hfold []

theorem matches_shiftLevels :
    (passEnvironment o root).Matches (passEnvironment o (root.shiftLevels k)) := by
  refine ⟨rfl, rfl, rfl, fun label => footnoteNumber_eq rfl rfl ?_⟩
  rw [Scope.defines, Scope.defines, definitions_shiftLevels, shiftDefinition, lookupEntry_map,
    Option.isSome_map]

/-- A shifted node has the parts of the node, as a pass sees them. -/
theorem recast_shiftLevels (h : LevelsSettled root) {n : Node} (hn : n ∈ root.preorder) :
    Recast (passEnvironment o root) (passEnvironment o (root.shiftLevels k)) n
      (n.shiftLevels k) :=
  recast_edit (matches_shiftLevels k o)
    (fun kind _ v hname => shiftLevel_of_ne_level k hname kind v)
    (fun _ hn hkind => headlineLevel_shiftLevels k o h hn hkind) (fun _ _ hc => nomatch hc) hn

end

/-- **Shifted levels change nothing in a pass**: it ends in the same way, with the same text or for
the same reason, and leaves the same record. -/
theorem renderDocument_shiftLevels (o : Options) (k : Int) {root : Node} (h : LevelsSettled root) :
    renderDocument o (root.shiftLevels k) = renderDocument o root := by
  have hmatches : (passEnvironment o root).Matches (passEnvironment o (root.shiftLevels k)) :=
    matches_shiftLevels k o
  have hnotes : footnoteSection (passEnvironment o (root.shiftLevels k)) =
      footnoteSection (passEnvironment o root) :=
    footnoteSection_eq rfl rfl hmatches (definitions_shiftLevels k) fun label d hd =>
      (recast_shiftLevels k o h (Scope.mem_preorder_of_lookup hd)).below false
  have hdocument := (recast_shiftLevels k o h (mem_preorder_self root)).document_eq hmatches hnotes
  rw [renderDocument_eq, renderDocument_eq, wholePass_congr (canCollect_shiftLevels k) hdocument]

/-- A headline and one below it, on negative levels. -/
theorem renderDocument_shiftLevels_negative :
    let headline (level : Int) (below : List Node) : Node :=
      .mk .headline [("level", .value (.int level)), ("title", .value (.text "a"))] below
    let root (level : Int) : Node := .mk .orgData [] [headline level [headline (level + 2) []]]
    LevelsSettled (root 2) ∧ (root 2).shiftLevels (-5) = root (-3) ∧
      (renderDocument {} (root 2)).1 = .ok "[b][u]# a[/u][/b]\n\n[b][u]+++ a[/u][/b]\n\n" ∧
      renderDocument {} (root (-3)) = renderDocument {} (root 2) := by
  intro headline root
  have hsettled : LevelsSettled (root 2) := by decide
  have hshifted : (root 2).shiftLevels (-5) = root (-3) := rfl
  exact ⟨hsettled, hshifted, rfl, hshifted ▸ renderDocument_shiftLevels {} (-5) hsettled⟩

end ForumMarkup
