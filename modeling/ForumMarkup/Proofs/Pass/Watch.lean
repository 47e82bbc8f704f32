import ForumMarkup.Proofs.Pass.Document
/-
**Watching a pass.**

A pass goes over a tree by recursion, and it comes to some nodes only: it may leave a headline out,
it reads the title of a headline and the term of an item, and it writes the definitions that are
referred to, after the body.  To say which nodes it comes to, the pass is watched.  A watched pass
does what the pass does, and it makes a note of each node before anything is done with it; the notes
outlive an abort.

What a watched pass notes can be told without running it.  A pass that succeeds notes a list of
sights that the tree determines, and one that fails notes the beginning of that list.

Main definitions:

* `ForumMarkup.Sight`, `ForumMarkup.Watch`, `ForumMarkup.WatchM` — what is noted, and computations
  that make notes;
* `ForumMarkup.Node.watch`, `ForumMarkup.watchEntries`, `ForumMarkup.watchPassage`,
  `ForumMarkup.watchDocument` — the pass, watched;
* `ForumMarkup.Node.sights`, `ForumMarkup.Scope.documentSights` — the sights of a tree and of a
  pass, in order;
* `ForumMarkup.Watched` — one computation is another one, watched, and notes given sights.

Main results:

* `ForumMarkup.Watched.bind` — one computation after another notes the sights of both;
* `ForumMarkup.fold_watched` — the watched fold runs as the fold and notes the sights of a tree;
* `ForumMarkup.document_watched` — **the watched pass runs as the pass and notes the sights of the
  document**.
-/

set_option autoImplicit false

namespace ForumMarkup

/-! ### Notes -/

/-- What is noted of a pass. -/
inductive Sight
  /-- The pass comes to a node, to visit it or to format it as an item. -/
  | node (n : Node)
  /-- The pass comes to a definition in the list of footnotes. -/
  | definition (d : Node)

/-- The state of a watched pass. -/
structure Watch where
  progress : Progress := {}
  seen : List Sight := []

/-- Computations of a watched pass.  Progress and notes outlive an abort. -/
abbrev WatchM := ExceptT Abort (StateM Watch)

namespace WatchM

variable {α β : Type}

/-- A computation of a pass at which nothing is noted. -/
def lift (m : PassM α) : WatchM α := fun s =>
  ((m.runFrom s.progress).1, { s with progress := (m.runFrom s.progress).2 })

/-- Makes a note. -/
def see (x : Sight) : WatchM Unit :=
  modify fun s => { s with seen := s.seen ++ [x] }

/-- The text of a list of fragments. -/
def joined (fs : List Fragment) : WatchM String :=
  lift (ForumMarkup.joined fs)

/-- A computation of a watched pass, from a state. -/
def runFrom (w : WatchM α) (s : Watch) : Except Abort α × Watch :=
  w.run.run s

theorem runFrom_bind_ok {w : WatchM α} {f : α → WatchM β} {s s' : Watch} {a : α}
    (h : w.runFrom s = (.ok a, s')) : (w >>= f).runFrom s = (f a).runFrom s' := by
  change (ExceptT.bindCont f (w.runFrom s).1).run (w.runFrom s).2 = _
  rw [h]
  rfl

theorem runFrom_bind_error {w : WatchM α} {f : α → WatchM β} {s s' : Watch} {e : Abort}
    (h : w.runFrom s = (.error e, s')) : (w >>= f).runFrom s = (.error e, s') := by
  change (ExceptT.bindCont f (w.runFrom s).1).run (w.runFrom s).2 = _
  rw [h]
  rfl

end WatchM

/-! ### The pass, watched -/

mutual
/-- The fragment of a node in a list of nodes.  The node is noted, and then transcoded by its role:
where other nodes are looked at, that is watched too. -/
def Node.watch (env : Environment) (inList : Bool) : Node → WatchM Fragment
  | .mk kind ps cs => do
    WatchM.see (.node (.mk kind ps cs))
    match kind.role with
    | .container =>
      if inList = true ∧ kind = .item then do
        let tag ← watchPassage env "tag" ps
        return .text (dress env kind (formatTerm tag)
          (← watchEntries env false cs >>= WatchM.joined))
      else do
        return .text (dress env kind "" (← watchEntries env false cs >>= WatchM.joined))
    | .headline =>
      if isSuppressed ps then return .text "" else do
        let level ← WatchM.lift (headlineLevel env ps)
        let title ← watchPassage env "title" ps
        let line ← WatchM.lift (headlineText title level)
        return .text (line ++ (← watchEntries env false cs >>= WatchM.joined))
    | .list => do
      let type ← WatchM.lift (PassM.ofExcept (listTypeOf ps))
      return .text (formatList env type
        (← watchEntries env (type = .descriptive) cs >>= WatchM.joined))
    | .link => do
      let parts ← WatchM.lift (PassM.ofMisfit (linkParts ps))
      let description ← watchEntries env false cs >>= WatchM.joined
      return .text (← WatchM.lift (linkMarkup parts description))
    | .leaf | .codeBlock | .reference | .refused => WatchM.lift (visit env (.mk kind ps cs))
  termination_by structural n => n
/-- The fragments of a list of nodes, the blanks after each included. -/
def watchEntries (env : Environment) (inList : Bool) : List Node → WatchM (List Fragment)
  | [] => return []
  | n :: ns => do
    let f ← n.watch env inList
    let f ← WatchM.lift (withBlanks n f)
    return f :: (← watchEntries env inList ns)
  termination_by structural ns => ns
/-- The markup of the passage under a name. -/
def watchPassage (env : Environment) (name : String) : List (String × Property) → WatchM String
  | [] => return ""
  | (k, .nodes ns) :: ps =>
    if k == name then watchEntries env false ns >>= WatchM.joined else watchPassage env name ps
  | (k, .value v) :: ps =>
    if k == name then WatchM.lift (PassM.ofMisfit (passageText v)) else watchPassage env name ps
  termination_by structural ps => ps
end

/-- The markup of a node, with the blanks after it. -/
def watchTranscode (env : Environment) (n : Node) : WatchM Fragment := do
  WatchM.lift (withBlanks n (← n.watch env false))

/-- The text of a definition in the list of footnotes.  The definition is noted, and it is not
visited itself. -/
def watchDefinition (env : Environment) (d : Node) : WatchM String := do
  WatchM.see (.definition d)
  return env.trim (← watchEntries env false d.children >>= WatchM.joined)

/-- The list of footnotes after the body. -/
def watchSection (env : Environment) : WatchM String := do
  let scope ← WatchM.lift env.scope
  noteSection (fun place => WatchM.lift (footnoteAt env place)) (watchDefinition env)
    env.options.footnoteTitle scope.definitions.length

/-- A whole pass over a document. -/
def watchDocument (env : Environment) (root : Node) : WatchM String := do
  WatchM.lift (PassM.settle (showing (FootnoteTable.canCollect root.preorder)) ())
  WatchM.lift (PassM.note (.began root.kind))
  let body ← watchTranscode env root
  let notes ← watchSection env
  let progress ← WatchM.lift get
  WatchM.lift (PassM.note (.listed progress.numbers.length))
  let body ← WatchM.lift (PassM.ofMisfit body.text?)
  return body ++ notes

/-! ### Sights in order -/

mutual
/-- The sights of a tree, in the order of a pass. -/
def Node.sights (inList : Bool) : Node → List Sight
  | .mk kind ps cs =>
    .node (.mk kind ps cs) ::
      match kind.role with
      | .container =>
        (if inList = true ∧ kind = .item then passageSights "tag" ps else []) ++
          listSights false cs
      | .headline =>
        if isSuppressed ps then [] else passageSights "title" ps ++ listSights false cs
      | .list => listSights (isDescriptive ps) cs
      | .link => listSights false cs
      | .leaf | .codeBlock | .reference | .refused => []
  termination_by structural n => n
/-- The sights of a list of trees. -/
def listSights (inList : Bool) : List Node → List Sight
  | [] => []
  | n :: ns => n.sights inList ++ listSights inList ns
  termination_by structural ns => ns
/-- The sights of the passage under a name. -/
def passageSights (name : String) : List (String × Property) → List Sight
  | [] => []
  | (k, .nodes ns) :: ps => if k == name then listSights false ns else passageSights name ps
  | (k, .value _) :: ps => if k == name then [] else passageSights name ps
  termination_by structural ps => ps
end

namespace Scope

variable (s : Scope)

/-- The sights of the definition of a label. -/
def noteSights (label : String) : List Sight :=
  match lookupEntry label s.definitions with
  | some d => .definition d :: listSights false d.children
  | none => []

/-- The sights of a pass over a document: those of its body, and those of the definitions that are
written, in order. -/
def documentSights (root : Node) : List Sight :=
  root.sights false ++ (s.notes root).flatMap s.noteSights

end Scope

/-! ### Computations that are watched -/

/-- One computation is another one, watched, from a state of the progress: it runs alike, and if it
succeeds it notes the given sights.  If it fails it notes the first ones of them. -/
def Watched {α : Type} (m : PassM α) (w : WatchM α) (sights : List Sight) (p : Progress) : Prop :=
  ∃ noted, noted <+: sights ∧ (∀ a, (m.runFrom p).1 = .ok a → noted = sights) ∧
    ∀ seen, w.runFrom { progress := p, seen := seen } =
      ((m.runFrom p).1, { progress := (m.runFrom p).2, seen := seen ++ noted })

namespace Watched

variable {α β : Type} {m : PassM α} {w : WatchM α} {sights sights' : List Sight} {p : Progress}

theorem lift (m : PassM α) (p : Progress) : Watched m (WatchM.lift m) [] p := by
  refine ⟨[], List.nil_prefix, fun _ _ => rfl, fun seen => ?_⟩
  rw [List.append_nil]
  rfl

theorem pure (a : α) (p : Progress) : Watched (pure a) (pure a) [] p :=
  lift (Pure.pure a) p

/-- A sight that is noted before anything else is done. -/
theorem see (x : Sight) (h : Watched m w sights p) :
    Watched m (WatchM.see x >>= fun _ => w) (x :: sights) p := by
  obtain ⟨noted, hprefix, hall, hrun⟩ := h
  refine ⟨x :: noted, List.cons_prefix_cons.2 ⟨rfl, hprefix⟩, fun a ha => ?_, fun seen => ?_⟩
  · rw [hall a ha]
  · have hsee : (WatchM.see x).runFrom { progress := p, seen := seen } =
        (.ok (), { progress := p, seen := seen ++ [x] }) := rfl
    rw [WatchM.runFrom_bind_ok hsee, hrun, List.append_assoc, List.singleton_append]

/-- One computation after another.  The second one notes its sights only if it is come to. -/
theorem bind {f : α → PassM β} {g : α → WatchM β} (h : Watched m w sights p)
    (h' : ∀ a q, m.runFrom p = (.ok a, q) → Watched (f a) (g a) sights' q) :
    Watched (m >>= f) (w >>= g) (sights ++ sights') p := by
  obtain ⟨noted, hprefix, hall, hrun⟩ := h
  rcases hm : m.runFrom p with ⟨e | a, q⟩
  · simp only [hm] at hrun
    refine ⟨noted, hprefix.trans (List.prefix_append _ _), fun b hb => ?_, fun seen => ?_⟩
    · rw [PassM.runFrom_bind_error hm] at hb
      cases hb
    · rw [PassM.runFrom_bind_error hm, WatchM.runFrom_bind_error (hrun seen)]
  · obtain ⟨noted', hprefix', hall', hrun'⟩ := h' a q hm
    have hnoted : noted = sights := hall a (by rw [hm])
    simp only [hm] at hrun
    rw [← PassM.runFrom_bind_ok hm] at hall' hrun'
    subst hnoted
    refine ⟨noted ++ noted', (List.prefix_append_right_inj _).2 hprefix', fun b hb => ?_,
      fun seen => ?_⟩
    · rw [hall' b hb]
    · rw [WatchM.runFrom_bind_ok (hrun seen), ← List.append_assoc, hrun']

/-- A computation whose result is put into a context. -/
theorem map {f : α → PassM β} {g : α → WatchM β} (h : Watched m w sights p)
    (hf : ∀ a q, Watched (f a) (g a) [] q) : Watched (m >>= f) (w >>= g) sights p := by
  have := h.bind fun a q _ => hf a q
  rwa [List.append_nil] at this

/-- A computation that comes after one at which nothing is noted. -/
theorem after {f : α → PassM β} {g : α → WatchM β} (m : PassM α)
    (h : ∀ a q, m.runFrom p = (.ok a, q) → Watched (f a) (g a) sights q) :
    Watched (m >>= f) (WatchM.lift m >>= g) sights p :=
  (lift m p).bind h

end Watched

/-! ### The fold -/

variable (env : Environment)

/-- The watched fold runs as the fold and notes the sights of a tree. -/
def NodeWatched (n : Node) : Prop :=
  ∀ inList p, Watched (entry env inList n) (n.watch env inList) (n.sights inList) p

/-- The same for a list of trees. -/
def ListWatched (ns : List Node) : Prop :=
  ∀ inList p, Watched (entries env inList ns) (watchEntries env inList ns)
    (listSights inList ns) p

/-- The same for a passage. -/
def PassageWatched (ps : List (String × Property)) : Prop :=
  ∀ name p, Watched (passage env name ps) (watchPassage env name ps) (passageSights name ps) p

variable {env}

/-- The entries of a list of nodes, joined. -/
theorem ListWatched.joined {ns : List Node} (h : ListWatched env ns) (inList : Bool)
    (p : Progress) : Watched (entries env inList ns >>= ForumMarkup.joined)
      (watchEntries env inList ns >>= WatchM.joined) (listSights inList ns) p :=
  (h inList p).map fun fs q => .lift (ForumMarkup.joined fs) q

theorem ListWatched.contents {ns : List Node} (h : ListWatched env ns) (p : Progress) :
    Watched (fragments env ns >>= ForumMarkup.joined)
      (watchEntries env false ns >>= WatchM.joined) (listSights false ns) p := by
  rw [fragments_eq]
  exact h.joined false p

section

variable {kind : Kind} {ps : List (String × Property)} {cs : List Node}
  (hps : PassageWatched env ps) (hcs : ListWatched env cs)

include hps hcs in
theorem NodeWatched.container (h : kind.role = .container) : NodeWatched env (.mk kind ps cs) := by
  intro inList p
  rw [entry, Node.watch, Node.sights]
  simp only [h]
  refine .see _ ?_
  by_cases hitem : inList = true ∧ kind = .item
  · rw [if_pos hitem, if_pos hitem, if_pos hitem]
    exact (hps "tag" p).bind fun tag q _ => (hcs.contents q).map fun s => .pure _
  · rw [if_neg hitem, if_neg hitem, if_neg hitem, visit_container env ps cs h]
    exact (hcs.contents p).map fun s => .pure _

include hps hcs in
theorem NodeWatched.headline : NodeWatched env (.mk .headline ps cs) := by
  intro inList p
  rw [entry_of_role inList (by decide), visit_headline]
  refine .see _ ?_
  cases hsuppressed : isSuppressed ps with
  | true => exact .pure _ p
  | false =>
      exact .after _ fun level q _ => (hps "title" q).bind fun title q' _ =>
        .after _ fun line q'' _ => (hcs.contents q'').map fun below => .pure _

include hcs in
theorem NodeWatched.list : NodeWatched env (.mk .plainList ps cs) := by
  intro inList p
  rw [entry_of_role inList (by decide), visit_plainList]
  refine .see _ (.after _ fun type q htype => ?_)
  -- The sights tell from the properties, and the fold from the type, whether items have terms.
  have hdescriptive : isDescriptive ps = decide (type = .descriptive) := by
    cases hlist : listTypeOf ps with
    | error u =>
        rw [hlist] at htype
        cases htype
    | ok type' =>
        rw [hlist] at htype
        cases htype
        cases type <;> simp [isDescriptive, hlist]
  rw [items_eq, hdescriptive]
  exact (hcs.joined _ q).map fun s => .pure _

include hcs in
theorem NodeWatched.link : NodeWatched env (.mk .link ps cs) := by
  intro inList p
  rw [entry_of_role inList (by decide), visit_link, ← ofMisfit_linkParts]
  exact .see _ (.after _ fun parts q _ => (hcs.contents q).map fun description q' =>
    .after _ fun markup q'' _ => .pure _ q'')

/-- A node of any other kind is transcoded without a look at what it holds. -/
theorem NodeWatched.plain
    (h : kind.role ∈ [Role.leaf, Role.codeBlock, Role.reference, Role.refused]) :
    NodeWatched env (.mk kind ps cs) := by
  intro inList p
  simp only [List.mem_cons, List.not_mem_nil, or_false] at h
  rw [entry_of_role inList (by rcases h with h | h | h | h <;> simp [h]), Node.watch, Node.sights]
  rcases h with h | h | h | h <;> simp only [h] <;> exact .see _ (.lift _ p)

end

theorem fold_watched : TreeCases (NodeWatched env) (ListWatched env) (PassageWatched env) where
  node kind ps cs hps hcs := by
    cases h : kind.role with
    | container => exact .container hps hcs h
    | headline => exact Kind.eq_headline h ▸ .headline hps hcs
    | list => exact Kind.eq_plainList h ▸ .list hcs
    | link => exact Kind.eq_link h ▸ .link hcs
    | leaf | codeBlock | reference | refused => exact .plain (by rw [h]; decide)
  nil := fun _ => .pure []
  cons n ns hn hns := fun inList p =>
    (hn inList p).bind fun f q _ => .after _ fun f' q' _ =>
      (hns inList q').map fun fs => .pure _
  bare := fun _ => .pure ""
  value name v ps hps := by
    intro sought p
    rw [passage, watchPassage, passageSights]
    split
    · exact .lift _ p
    · exact hps sought p
  nodes name ns ps hns hps := by
    intro sought p
    rw [passage, watchPassage, passageSights]
    split
    · exact hns.contents p
    · exact hps sought p

theorem transcode_watched (n : Node) (p : Progress) :
    Watched (transcode env n) (watchTranscode env n) (n.sights false) p := by
  have hvisit : NodeWatched env n := fold_watched.holds n
  have hentry := hvisit false p
  rw [entry_false] at hentry
  exact hentry.map fun f q => .lift _ q

/-! ### The list of footnotes -/

variable {trim : List Piece → List Piece} {s : Scope}

theorem definitionText_watched (d : Node) (p : Progress) :
    Watched (definitionText env d) (watchDefinition env d)
      (.definition d :: listSights false d.children) p :=
  .see _ (((fold_watched.holds_nodes d.children).contents p).map fun _ => .pure _)

/-- A computation that succeeds numbers the labels of its points. -/
theorem Follows.numbers_eq {premises : Premises} {α : Type} {m : PassM α} {points : List Point}
    {value : List String → α} {p q : Progress} {a : α} (h : Follows premises m points value p)
    (hp : p.Sound premises.scope?) (hrun : m.runFrom p = (.ok a, q)) :
    q.Sound premises.scope? ∧
      q.numbers = addLabels p.numbers (numberedIn premises.scope? points) := by
  rcases hproceed : proceed premises points p with ⟨e | e, q'⟩
  · rw [h.run_of_none hp hproceed List.prefix_rfl] at hrun
    cases hrun
    exact ⟨hp.proceed hproceed, proceed_numbers hproceed⟩
  · rw [h.run_of_some hp hproceed] at hrun
    cases hrun

/-- The lines of the definitions from a place on note the sights of the definitions that are
written.  The list grows meanwhile, so the induction goes with the order of the definitions. -/
theorem noteLines_watched (ht : Trims env trim) (hs : env.scope? = some s) {bound place : Nat}
    {p : Progress} (hp : p.Sound env.scope?) :
    Watched (noteLines (footnoteAt env) (definitionText env) bound place)
      (noteLines (fun i => WatchM.lift (footnoteAt env i)) (watchDefinition env) bound place)
      ((s.noteOrder bound place p.numbers).flatMap s.noteSights) p := by
  induction bound generalizing place p with
  | zero => exact .pure [] p
  | succ bound ih =>
      rw [noteLines, noteLines]
      refine .after _ fun entry? q hentry => ?_
      rw [footnoteAt_run hs] at hentry
      cases hentry
      cases hlabel : p.numbers[place]? with
      | none =>
          rw [s.noteOrder_of_none hlabel]
          simp only [FootnoteTable.at?, hlabel]
          exact .pure [] p
      | some label =>
          have hdefined : s.defines label = true := hp s hs label (List.mem_of_getElem? hlabel)
          obtain ⟨d, hd⟩ := Option.isSome_iff_exists.1 hdefined
          have hsights : s.noteSights label = .definition d :: listSights false d.children := by
            simp only [Scope.noteSights, hd]
          simp only [FootnoteTable.at?, hlabel, hd, Option.map_some, Scope.noteOrder,
            List.flatMap_cons, hsights]
          refine (definitionText_watched d p).bind fun _ q hrun => ?_
          obtain ⟨hq, hnumbers⟩ := (definitionText_follows ht hd p).numbers_eq hp hrun
          rw [show env.premises.scope? = some s from hs] at hnumbers
          rw [Scope.noteLabels, ← hnumbers]
          exact (ih hq).map fun lines => .pure _

theorem footnoteSection_watched (ht : Trims env trim) (hs : env.scope? = some s) {p : Progress}
    (hp : p.Sound env.scope?) :
    Watched (footnoteSection env) (watchSection env)
      ((s.noteOrder s.definitions.length 0 p.numbers).flatMap s.noteSights) p := by
  refine .after _ fun s' q hscope => ?_
  simp only [Environment.scope, hs, PassM.runFrom_pure, Prod.mk.injEq, Except.ok.injEq] at hscope
  obtain ⟨rfl, rfl⟩ := hscope
  refine .after _ fun entry? q hentry => ?_
  rw [footnoteAt_run hs] at hentry
  cases hentry
  -- Numbered labels have definitions, so the list is left out only if no label is numbered.
  cases hlabel : p.numbers[0]? with
  | none =>
      rw [s.noteOrder_of_none hlabel]
      simp only [FootnoteTable.at?, hlabel]
      exact .pure "" p
  | some label =>
      have hdefined : s.defines label = true := hp s hs label (List.mem_of_getElem? hlabel)
      obtain ⟨d, hd⟩ := Option.isSome_iff_exists.1 hdefined
      simp only [FootnoteTable.at?, hlabel, hd, Option.map_some]
      exact (noteLines_watched ht hs hp).map fun lines => .pure _

/-! ### The whole document -/

/-- The watched pass runs as the pass and notes the sights of the document. -/
theorem document_watched (ht : Trims env trim) (hs : env.scope? = some s) (root : Node) :
    Watched (wholePass env root) (watchDocument env root) (s.documentSights root) {} := by
  refine .after _ fun _ p hcollected => .after _ fun _ q hbegan => ?_
  have hq : q.Sound env.scope? ∧ q.numbers = [] := by
    cases hcollect : FootnoteTable.canCollect root.preorder with
    | false =>
        rw [hcollect] at hcollected
        cases hcollected
    | true =>
        rw [hcollect] at hcollected
        cases hcollected
        cases hbegan
        exact ⟨.empty env.scope?, rfl⟩
  refine (transcode_watched root q).bind fun body q' hbody => ?_
  -- The order of the footnotes is fixed when the body is over.
  obtain ⟨hsound, hnumbers⟩ := (transcode_follows ht root q).numbers_eq hq.1 hbody
  have hnotes : s.noteOrder s.definitions.length 0 q'.numbers = s.notes root := by
    have hnoblanks : numberedIn (some s) [.blanks root] = [] := rfl
    rw [hnumbers, hq.2, show env.premises.scope? = some s from hs, numberedIn_append, hnoblanks,
      List.append_nil]
    rfl
  rw [← hnotes]
  exact (footnoteSection_watched ht hs hsound).map fun notes _ => .after _ fun _ _ _ =>
    .after _ fun _ _ _ => .after _ fun text r _ => .pure (text ++ notes) r

end ForumMarkup
