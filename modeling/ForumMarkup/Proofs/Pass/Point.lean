import ForumMarkup.Proofs.Pass.Role
/-
**The order of a pass.**

A pass goes over a tree in one fixed order, and the only things that it does on the way are to
refuse what it cannot express, to number footnotes and to keep its record.  None of these depends on
the text that has been written so far, so the order can be told without the text: it is a list of
*points*, each of which can end the pass or change its progress.

What a point is checked against is the scope of the pass and whether the languages of source code
are written.  No other option can end a pass.

Main definitions:

* `ForumMarkup.Premises` — what points are checked against;
* `ForumMarkup.Point` — the points of a pass at which something is checked;
* `ForumMarkup.Node.points`, `ForumMarkup.listPoints`, `ForumMarkup.passagePoints` — the points of
  a tree, of a list of trees and of a passage, in order;
* `ForumMarkup.Point.abort?` — how a point ends the pass, if it does;
* `ForumMarkup.Point.advance` — what a point that does not end the pass changes;
* `ForumMarkup.proceed` — a run through a list of points.

Main results:

* `ForumMarkup.proceed_append_of_some`, `ForumMarkup.proceed_append_of_none`,
  `ForumMarkup.proceed_append_congr` — runs through two lists one after the other;
* `ForumMarkup.proceed_fst`, `ForumMarkup.proceed_of_none` — a run ends at the first point that ends
  it, and otherwise makes all changes;
* `ForumMarkup.proceed_numbers` — a run that does not end numbers the labels of its points in order.
-/

set_option autoImplicit false

namespace ForumMarkup

/-! ### Points -/

/-- What the points of a pass are checked against: its scope, if it has one, and whether the
languages of source code are written. -/
structure Premises where
  languages : Bool := false
  scope? : Option Scope := none

/-- What an environment has its points checked against. -/
def Environment.premises (env : Environment) : Premises :=
  ⟨env.options.codeLanguage, env.scope?⟩

/-- What the points of a pass over a document are checked against. -/
def Premises.ofDocument (o : Options) (root : Node) : Premises :=
  ⟨o.codeLanguage, some (.ofDocument root)⟩

/-- The points of a pass at which something is checked. -/
inductive Point
  /-- A pass over a tree begins, for which the labels of its definitions have to be shown. -/
  | began (kind : Kind) (labelled : Bool)
  /-- The parts of a link are shown. -/
  | parts (n : Node)
  /-- The level of a headline is counted. -/
  | level (n : Node)
  /-- A plain value stands in the place of a passage. -/
  | worded (v : Value)
  /-- A node is checked by itself. -/
  | construct (n : Node)
  /-- The fragments of a list of nodes are joined. -/
  | joined (ns : List Node)
  /-- The blanks after a node are added. -/
  | blanks (n : Node)
  /-- All footnotes have been listed. -/
  | listed

/-- The beginning of a pass over a document. -/
def Point.beginning (root : Node) : Point :=
  .began root.kind (FootnoteTable.canCollect root.preorder)

mutual
/-- The points of a tree.  A node is checked before its contents, a link before and after them, and
a headline between its title and its contents.  `inList` says whether the tree stands in a
descriptive list. -/
def Node.points (inList : Bool) : Node → List Point
  | .mk kind ps cs =>
    match kind.role with
    | .container =>
      .construct (.mk kind ps cs) ::
        ((if inList = true ∧ kind = .item then passagePoints "tag" ps else []) ++
          (listPoints false cs ++ [.joined cs]))
    | .headline =>
      if isSuppressed ps then [.construct (.mk kind ps cs)]
      else .level (.mk kind ps cs) :: (passagePoints "title" ps ++
        .construct (.mk kind ps cs) :: (listPoints false cs ++ [.joined cs]))
    | .list =>
      .construct (.mk kind ps cs) :: (listPoints (isDescriptive ps) cs ++ [.joined cs])
    | .link =>
      .parts (.mk kind ps cs) :: ((listPoints false cs ++ [.joined cs]) ++
        [.construct (.mk kind ps cs)])
    | .leaf | .codeBlock | .reference | .refused => [.construct (.mk kind ps cs)]
  termination_by structural n => n
/-- The points of a list of trees: each is followed by its blanks. -/
def listPoints (inList : Bool) : List Node → List Point
  | [] => []
  | n :: ns => n.points inList ++ .blanks n :: listPoints inList ns
  termination_by structural ns => ns
/-- The points of the passage under a name. -/
def passagePoints (name : String) : List (String × Property) → List Point
  | [] => []
  | (k, .nodes ns) :: ps =>
    if k == name then listPoints false ns ++ [.joined ns] else passagePoints name ps
  | (k, .value v) :: ps => if k == name then [.worded v] else passagePoints name ps
  termination_by structural ps => ps
end

/-- The points of the text of a list of trees. -/
def contentPoints (ns : List Node) : List Point :=
  listPoints false ns ++ [.joined ns]

/-! ### How a point ends a pass -/

/-- The failure of a step that can end the pass. -/
def abortOf {α : Type} : Except Abort α → Option Abort
  | .ok _ => none
  | .error e => some e

/-- The failure of a step that can meet a value that does not fit. -/
def misfitOf {α : Type} : Except Misfit α → Option Abort
  | .ok _ => none
  | .error m => some (.misfit m)

/-- The level of a headline as a pass with a scope writes it. -/
def writtenLevel (scope? : Option Scope) (ps : List (String × Property)) : Value :=
  match (Node.valueIn? "level" ps).getD (.int 1), scope? with
  | .int n, some s => .int (s.relativeLevel n)
  | v, _ => v

/-- Whether the level of a headline is counted from the least one. -/
def countsLevel (ps : List (String × Property)) : Bool :=
  match (Node.valueIn? "level" ps).getD (.int 1) with
  | .int _ => true
  | _ => false

/-- The refusal of a level. -/
def levelAbort? (level : Value) : Option Abort :=
  match headlineMark level with
  | .ok _ => none
  | .error u => some (.refusal u level)

/-- The label of a footnote reference. -/
def labelIn (ps : List (String × Property)) : String :=
  textIn "label" "None" ps

/-- Whether a label has a definition. -/
def Scope.defines (s : Scope) (label : String) : Bool :=
  (lookupEntry label s.definitions).isSome

/-- The URL of a link. -/
def urlIn (ps : List (String × Property)) : Except Abort String :=
  (partsIn ps).url

/-- How a node by itself ends a pass. -/
def constructAbort? (premises : Premises) : Node → Option Abort
  | .mk kind ps cs =>
    match kind.role with
    | .container => none
    | .leaf => leafAbort? kind ps
    | .codeBlock => (misfitOf (codeOf kind ps)).or (languageAbort? premises.languages kind ps)
    | .headline => if isSuppressed ps then none else levelAbort? (writtenLevel premises.scope? ps)
    | .list => abortOf (listTypeOf ps)
    | .link => abortOf (urlIn ps)
    | .reference =>
      if isInlineFootnote ps cs then some (.unsupported .inlineFootnote)
      else match premises.scope? with
        | none => some .noPass
        | some s =>
          if !isShowableIn "label" ps then some (.misfit .longInteger)
          else if s.defines (labelIn ps) then none
          else some (.unsupported (.undefinedFootnote (.text (labelIn ps))))
    | .refused => some (.unsupported (.node kind))

/-- The value of an entity that is no text. -/
def Node.stray? : Node → Option Value
  | .mk kind ps _ =>
    if kind = .entity then
      let v := (Node.valueIn? "utf8" ps).getD (.text "")
      if v.asText?.isSome then none else some v
    else none

/-- How the blanks after a node end a pass. -/
def blanksAbort? (n : Node) : Option Abort :=
  match n.postBlank with
  | .error m => some (.misfit m)
  | .ok count =>
    if count = 0 then none
    else match blanks n.kind count with
      | .error m => some (.misfit m)
      | .ok _ => if n.stray?.isSome then some (.misfit .notText) else none

/-- How a point ends a pass, if it does. -/
def Point.abort? (premises : Premises) : Point → Option Abort
  | .began _ labelled => showing labelled
  | .parts n => partsAbort? n.properties
  | .level n => if countsLevel n.properties && premises.scope?.isNone then some .noPass else none
  | .worded v => misfitOf (passageText v)
  | .construct n => constructAbort? premises n
  | .joined ns => if ns.any fun n => n.stray?.isSome then some (.misfit .notText) else none
  | .blanks n => blanksAbort? n
  | .listed => none

/-! ### What a point changes -/

/-- The labels with one more, unless it is there. -/
def addLabel (labels : List String) (label : String) : List String :=
  if label ∈ labels then labels else labels ++ [label]

/-- The labels with more of them, in order. -/
def addLabels (labels more : List String) : List String :=
  more.foldl addLabel labels

/-- The label that a node has numbered. -/
def Node.numbered? (scope? : Option Scope) : Node → Option String
  | .mk kind ps cs =>
    if kind = .footnoteReference ∧ isInlineFootnote ps cs = false then
      match scope? with
      | some s =>
        if isShowableIn "label" ps && s.defines (labelIn ps) then some (labelIn ps) else none
      | none => none
    else none

/-- The label that a point has numbered. -/
def Point.numbered? (scope? : Option Scope) : Point → Option String
  | .construct n => n.numbered? scope?
  | _ => none

/-- What a point adds to the record of a pass that stands at `p`. -/
def Point.event? (p : Progress) : Point → Option PassEvent
  | .began kind _ => some (.began kind)
  | .construct (.mk .link ps _) =>
    (urlIn ps).toOption.map fun url => .resolved (partsIn ps).scheme (partsIn ps).target url
  | .listed => some (.listed p.numbers.length)
  | _ => none

/-- The progress after a point that does not end the pass. -/
def Point.advance (scope? : Option Scope) (p : Progress) (m : Point) : Progress :=
  { numbers := addLabels p.numbers (m.numbered? scope?).toList
    record := p.record ++ (m.event? p).toList }

/-- A run through a list of points: how it ends early, if it does, and the progress at its end. -/
def proceed (premises : Premises) : List Point → Progress → Option Abort × Progress
  | [], p => (none, p)
  | m :: ms, p =>
    match m.abort? premises with
    | some a => (some a, p)
    | none => proceed premises ms (m.advance premises.scope? p)

/-! ### Runs -/

variable {premises : Premises}

theorem proceed_append_of_some {ms : List Point} {p q : Progress} {e : Abort} (ms' : List Point)
    (h : proceed premises ms p = (some e, q)) : proceed premises (ms ++ ms') p = (some e, q) := by
  induction ms generalizing p with
  | nil => cases h
  | cons m ms ih =>
      simp only [List.cons_append, proceed] at h ⊢
      cases hm : m.abort? premises with
      | some a => simpa only [hm] using h
      | none => exact ih (by simpa only [hm] using h)

theorem proceed_append_of_none {ms : List Point} {p q : Progress} (ms' : List Point)
    (h : proceed premises ms p = (none, q)) :
    proceed premises (ms ++ ms') p = proceed premises ms' q := by
  induction ms generalizing p with
  | nil => cases h; rfl
  | cons m ms ih =>
      simp only [List.cons_append, proceed] at h ⊢
      cases hm : m.abort? premises with
      | some a => simp [hm] at h
      | none => exact ih (by simpa only [hm] using h)

/-- A run ends early at the first point that ends it. -/
theorem proceed_fst (ms : List Point) (p : Progress) :
    (proceed premises ms p).1 = ms.findSome? (Point.abort? premises) := by
  induction ms generalizing p with
  | nil => rfl
  | cons m ms ih =>
      simp only [proceed, List.findSome?_cons]
      cases m.abort? premises with
      | some a => rfl
      | none => exact ih _

/-- A run that does not end early makes the changes of all its points. -/
theorem proceed_of_none {ms : List Point} {p q : Progress}
    (h : proceed premises ms p = (none, q)) : q = ms.foldl (Point.advance premises.scope?) p := by
  induction ms generalizing p with
  | nil => cases h; rfl
  | cons m ms ih =>
      simp only [proceed] at h
      cases hm : m.abort? premises with
      | some a => simp [hm] at h
      | none => exact ih (by simpa only [hm] using h)

/-- A run through points that do not end it. -/
theorem proceed_of_forall {ms : List Point} (h : ∀ m ∈ ms, m.abort? premises = none)
    (p : Progress) :
    proceed premises ms p = (none, ms.foldl (Point.advance premises.scope?) p) := by
  induction ms generalizing p with
  | nil => rfl
  | cons m ms ih =>
      simp only [proceed, h m (by simp)]
      exact ih (fun m' hm' => h m' (List.mem_cons_of_mem _ hm')) _

/-- A run that does not end early comes to no point that ends it. -/
theorem forall_of_proceed {ms : List Point} {p q : Progress}
    (h : proceed premises ms p = (none, q)) : ∀ m ∈ ms, m.abort? premises = none := by
  have hfirst : (proceed premises ms p).1 = ms.findSome? (Point.abort? premises) := proceed_fst ms p
  rw [h] at hfirst
  exact List.findSome?_eq_none_iff.1 hfirst.symm

/-- Runs through two lists one after the other are the same if the runs through each are. -/
theorem proceed_append_congr {premises' : Premises} {ms ms' rest rest' : List Point}
    {p : Progress} (hms : proceed premises' ms' p = proceed premises ms p)
    (hrest : ∀ q, proceed premises ms p = (none, q) →
      proceed premises' rest' q = proceed premises rest q) :
    proceed premises' (ms' ++ rest') p = proceed premises (ms ++ rest) p := by
  rcases hproceed : proceed premises ms p with ⟨e | e, q⟩
  · rw [proceed_append_of_none _ hproceed, proceed_append_of_none _ (hms.trans hproceed),
      hrest q hproceed]
  · rw [proceed_append_of_some _ hproceed, proceed_append_of_some _ (hms.trans hproceed)]

/-! ### Numbers -/

theorem addLabels_append (labels more others : List String) :
    addLabels labels (more ++ others) = addLabels (addLabels labels more) others :=
  List.foldl_append

theorem prefix_addLabel (labels : List String) (label : String) :
    labels <+: addLabel labels label := by
  unfold addLabel
  split
  · exact List.prefix_rfl
  · exact List.prefix_append ..

theorem prefix_addLabels (labels more : List String) : labels <+: addLabels labels more := by
  induction more generalizing labels with
  | nil => exact List.prefix_rfl
  | cons label more ih => exact (prefix_addLabel labels label).trans (ih _)

/-- The labels that a list of points has numbered, in order. -/
def numberedIn (scope? : Option Scope) (ms : List Point) : List String :=
  ms.filterMap (Point.numbered? scope?)

theorem foldl_advance_numbers {scope? : Option Scope} (ms : List Point) (p : Progress) :
    (ms.foldl (Point.advance scope?) p).numbers = addLabels p.numbers (numberedIn scope? ms) := by
  induction ms generalizing p with
  | nil => rfl
  | cons m ms ih =>
      rw [List.foldl_cons, ih]
      cases h : m.numbered? scope? <;> simp [Point.advance, h, addLabels, numberedIn]

/-- A run that does not end early numbers the labels of its points in order. -/
theorem proceed_numbers {ms : List Point} {p q : Progress}
    (h : proceed premises ms p = (none, q)) :
    q.numbers = addLabels p.numbers (numberedIn premises.scope? ms) := by
  rw [proceed_of_none h, foldl_advance_numbers]

/-- Numbers are never taken back. -/
theorem prefix_proceed {ms : List Point} {p q : Progress}
    (h : proceed premises ms p = (none, q)) : p.numbers <+: q.numbers := by
  rw [proceed_numbers h]
  exact prefix_addLabels _ _

end ForumMarkup
