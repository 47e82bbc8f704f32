import ForumMarkup.Pass.Renderer
import ForumMarkup.Proofs.Pass.Course
/-
**Passes on one renderer.**

A renderer can be used again and again: for passes that succeed, fail or are broken off, for single
nodes outside a pass, and, by what runs during a pass, for another pass, which is refused.  None of
this leaves a trace.  After each use no pass is left on the renderer, so the next one finds it as
it was when it was new; and a pass that is asked for while another one runs changes nothing of the
one that runs.

Main definitions:

* `ForumMarkup.Script`, `ForumMarkup.Script.run` — what is done on a renderer, computations and
  calls for passes, each of which may depend on the outcomes so far;
* `ForumMarkup.Script.quiet` — a script that does not call for passes, but takes them as refused;
* `ForumMarkup.Script.whole`, `ForumMarkup.Script.interrupted` — the transcoding of a document,
  and the same with calls for other passes in the middle;
* `ForumMarkup.Renderer.renderWith` — a pass in which a script runs;
* `ForumMarkup.Use`, `ForumMarkup.runUses` — the uses of a renderer, and a history of them;
* `ForumMarkup.PassesIsolated` — what is said of a history.

Main results:

* `ForumMarkup.Use.run_of_idle`, `ForumMarkup.runUses_of_idle` — **a use of a renderer, and a
  history of uses, leaves the renderer as it was**;
* `ForumMarkup.Script.run_quiet`, `ForumMarkup.Script.run_interrupted` — during a pass, calls for
  other passes change nothing;
* `ForumMarkup.passesIsolated` — **the passes on one renderer are independent of each other**.
-/

set_option autoImplicit false

namespace ForumMarkup

/-! ### Scripts -/

/-- What is done on a renderer.  What comes next may depend on what came out. -/
inductive Script : Type 1
  | done (outcome : Except Abort String)
  /-- A computation, such as a part of a pass. -/
  | compute {α : Type} (m : Environment → PassM α) (next : Except Abort α → Script)
  /-- A call for a whole pass. -/
  | attempt (root : Node) (next : Except Abort String × List PassEvent → Script)

namespace Script

/-- A script on a renderer: its outcome, and the renderer after it. -/
def run : Script → Renderer → Except Abort String × Renderer
  | .done outcome, r => (outcome, r)
  | .compute m next, r => (next (r.perform m).1).run (r.perform m).2
  | .attempt root next, r => (next (r.render root).1).run (r.render root).2

/-- The script that goes on at each call for a pass as if the call had been refused. -/
def quiet : Script → Script
  | .done outcome => .done outcome
  | .compute m next => .compute m fun outcome => (next outcome).quiet
  | .attempt _ next => (next (.error .passRunning, [])).quiet

/-- The script of a pass that nothing interrupts. -/
def whole (root : Node) : Script :=
  .compute (fun env => document env root) .done

/-- A script before which passes over some documents are called for, whatever they come to. -/
def after (s : Script) : List Node → Script
  | [] => s
  | root :: roots => .attempt root fun _ => s.after roots

/-- The script of a computation in two parts, between which other passes are called for. -/
def interrupted {α : Type} (m : Environment → PassM α) (others : List Node)
    (next : Environment → α → PassM String) : Script :=
  .compute m fun
    | .ok a => after (.compute (fun env => next env a) .done) others
    | .error e => .done (.error e)

end Script

/-- A pass over a document in which a script runs in the place of the transcoding. -/
def Renderer.renderWith (r : Renderer) (root : Node) (s : Script) :
    (Except Abort String × List PassEvent) × Renderer :=
  match r.start root with
  | .error e => ((.error e, []), r)
  | .ok r =>
    let (outcome, r) := s.run r
    ((outcome, r.progress.record), r.finish)

/-- A pass is one in which its own script runs. -/
theorem Renderer.renderWith_whole (r : Renderer) (root : Node) :
    r.renderWith root (.whole root) = r.render root := by
  rw [renderWith, render]
  cases r.start root <;> rfl

/-! ### Histories -/

/-- The uses of a renderer. -/
inductive Use : Type 1
  | render (root : Node)
  /-- A pass in which other passes are called for, or which is broken off. -/
  | renderWith (root : Node) (s : Script)
  | transcode (n : Node)
  | visit (n : Node)
  | context

/-- What a use of a renderer comes to. -/
inductive Answer
  | rendered (result : Except Abort String × List PassEvent)
  | fragment (result : Except Abort Fragment)
  | context (result : Except Abort Scope)

/-- A use of a renderer: what it comes to, and the renderer after it. -/
def Use.run (r : Renderer) : Use → Answer × Renderer
  | .render root => (.rendered (r.render root).1, (r.render root).2)
  | .renderWith root s => (.rendered (r.renderWith root s).1, (r.renderWith root s).2)
  | .transcode n =>
    (.fragment (r.perform fun env => ForumMarkup.transcode env n).1,
      (r.perform fun env => ForumMarkup.transcode env n).2)
  | .visit n =>
    (.fragment (r.perform fun env => ForumMarkup.visit env n).1,
      (r.perform fun env => ForumMarkup.visit env n).2)
  | .context => (.context r.scope, r)

/-- A history of uses: what they come to, in order, and the renderer at the end. -/
def runUses (r : Renderer) : List Use → List Answer × Renderer
  | [] => ([], r)
  | use :: uses =>
    ((use.run r).1 :: (runUses (use.run r).2 uses).1, (runUses (use.run r).2 uses).2)

/-! ### What a script keeps -/

/-- Whether a renderer has the options of another one, and the same pass runs on both, if any. -/
def Renderer.SamePass (r r' : Renderer) : Prop :=
  r'.options = r.options ∧ r'.pass?.map Pass.scope = r.pass?.map Pass.scope

namespace Renderer

theorem SamePass.refl (r : Renderer) : r.SamePass r := ⟨rfl, rfl⟩

theorem SamePass.trans {r r' r'' : Renderer} (h : r.SamePass r') (h' : r'.SamePass r'') :
    r.SamePass r'' :=
  ⟨h'.1.trans h.1, h'.2.trans h.2⟩

/-- A renderer without a pass has nothing else that could change. -/
theorem SamePass.eq_of_idle {r r' : Renderer} (h : r.SamePass r') (hidle : r.pass? = none) :
    r' = r := by
  obtain ⟨options, pass?⟩ := r
  obtain ⟨options', pass?'⟩ := r'
  cases hidle
  obtain ⟨rfl, hpass⟩ := h
  cases Option.map_eq_none_iff.1 hpass
  rfl

theorem SamePass.running {r r' : Renderer} (h : r.SamePass r') (hrunning : r.pass? ≠ none) :
    r'.pass? ≠ none := by
  intro hidle
  have hpass := h.2
  rw [hidle, Option.map_none, eq_comm, Option.map_eq_none_iff] at hpass
  exact hrunning hpass

theorem SamePass.scope_eq {r r' : Renderer} (h : r.SamePass r') {p : Pass}
    (hp : r.pass? = some p) : r'.scope = .ok p.scope := by
  have hpass := h.2
  rw [hp, Option.map_some, Option.map_eq_some_iff] at hpass
  obtain ⟨p', hp', hscope⟩ := hpass
  rw [scope, hp', ← hscope]

/-- A computation makes progress in the pass that runs. -/
theorem samePass_perform {α : Type} (r : Renderer) (m : Environment → PassM α) :
    r.SamePass (r.perform m).2 := by
  obtain ⟨options, _ | p⟩ := r <;> exact ⟨rfl, rfl⟩

theorem perform_eq {α : Type} (r : Renderer) (m : Environment → PassM α) :
    r.perform m = (((m r.environment).runFrom r.progress).1,
      r.advance ((m r.environment).runFrom r.progress).2) := rfl

theorem environment_advance (r : Renderer) (p : Progress) :
    (r.advance p).environment = r.environment := by
  obtain ⟨options, _ | _⟩ := r <;> rfl

theorem progress_advance {r : Renderer} (h : r.pass? ≠ none) (p : Progress) :
    (r.advance p).progress = p := by
  obtain ⟨options, _ | _⟩ := r
  · exact absurd rfl h
  · rfl

theorem advance_advance (r : Renderer) (p q : Progress) :
    (r.advance p).advance q = r.advance q := by
  obtain ⟨options, _ | _⟩ := r <;> rfl

/-- During a pass, two computations one after the other are one computation. -/
theorem perform_bind {r : Renderer} (h : r.pass? ≠ none) {α β : Type} (m : Environment → PassM α)
    (next : Environment → α → PassM β) :
    (r.perform fun env => m env >>= next env) =
      match (r.perform m).1 with
      | .ok a => (r.perform m).2.perform fun env => next env a
      | .error e => (.error e, (r.perform m).2) := by
  rw [perform_eq, perform_eq]
  rcases hm : (m r.environment).runFrom r.progress with ⟨e | a, p⟩
  · rw [PassM.runFrom_bind_error hm]
  · simp only [perform_eq, environment_advance, progress_advance h, advance_advance]
    rw [PassM.runFrom_bind_ok hm]

/-- A pass that is called for while another one runs is refused, and nothing changes. -/
theorem render_of_running {r : Renderer} (h : r.pass? ≠ none) (root : Node) :
    r.render root = ((.error .passRunning, []), r) := by
  obtain ⟨options, _ | p⟩ := r
  · exact absurd rfl h
  · rfl

/-- A pass that runs by itself is over at its end. -/
theorem renderWith_of_idle {r : Renderer} (h : r.pass? = none) (root : Node) (s : Script)
    (hs : ∀ r' : Renderer, r'.SamePass (s.run r').2) : (r.renderWith root s).2 = r := by
  obtain ⟨options, pass?⟩ := r
  cases h
  simp only [renderWith, start]
  cases Scope.survey root with
  | error m => rfl
  | ok scope =>
      have hoptions := (hs { options := options, pass? := some { scope := scope } }).1
      exact congrArg (fun o => ({ options := o, pass? := none } : Renderer)) hoptions

/-- A whole pass leaves the renderer as it was. -/
theorem render_snd (r : Renderer) (root : Node) : (r.render root).2 = r := by
  by_cases h : r.pass? = none
  · rw [← renderWith_whole]
    exact renderWith_of_idle h root (.whole root) fun r' =>
      samePass_perform r' fun env => document env root
  · rw [render_of_running h]

end Renderer

namespace Script

/-- The pass that runs, if any, is the same after a script, with the scope that it had. -/
theorem samePass_run (s : Script) (r : Renderer) : r.SamePass (s.run r).2 := by
  induction s generalizing r with
  | done outcome => exact .refl r
  | compute m next ih => exact (r.samePass_perform m).trans (ih _ _)
  | attempt root next ih =>
      rw [run, r.render_snd]
      exact ih _ _

/-- During a pass, calls for other passes change nothing: the script goes on as if they had been
refused without looking at the renderer. -/
theorem run_quiet (s : Script) {r : Renderer} (h : r.pass? ≠ none) : s.run r = s.quiet.run r := by
  induction s generalizing r with
  | done outcome => rfl
  | compute m next ih => exact ih _ ((r.samePass_perform m).running h)
  | attempt root next ih =>
      rw [run, quiet, Renderer.render_of_running h]
      exact ih _ h

/-- Passes that are called for during a pass are refused, and the script goes on. -/
theorem run_after (s : Script) {r : Renderer} (h : r.pass? ≠ none) (others : List Node) :
    (s.after others).run r = s.run r := by
  induction others with
  | nil => rfl
  | cons root others ih => rw [after, run, Renderer.render_of_running h, ih]

/-- A pass in two parts, between which other passes are called for, is a pass like any other. -/
theorem run_interrupted {r : Renderer} (h : r.pass? ≠ none) {α : Type} {root : Node}
    {m : Environment → PassM α} {next : Environment → α → PassM String}
    (hparts : ∀ env, document env root = m env >>= next env) (others : List Node) :
    (interrupted m others next).run r = (whole root).run r := by
  have hwhole : (fun env => document env root) = fun env => m env >>= next env := funext hparts
  rw [interrupted, whole, run, run, hwhole, Renderer.perform_bind h]
  cases hm : (r.perform m).1 with
  | error e => rfl
  | ok a =>
      have hrunning := (r.samePass_perform m).running h
      simp only [run_after _ hrunning]
      rfl

end Script

/-- What a pass comes to does not depend on the calls for other passes in it. -/
theorem Renderer.renderWith_quiet (r : Renderer) (root : Node) (s : Script) :
    r.renderWith root s = r.renderWith root s.quiet := by
  obtain ⟨options, _ | p⟩ := r
  · simp only [renderWith, start]
    cases Scope.survey root with
    | error m => rfl
    | ok scope =>
        dsimp only
        rw [s.run_quiet (Option.some_ne_none _)]
  · rfl

theorem Renderer.renderWith_interrupted (r : Renderer) {α : Type} {root : Node}
    {m : Environment → PassM α} {next : Environment → α → PassM String}
    (hparts : ∀ env, document env root = m env >>= next env) (others : List Node) :
    r.renderWith root (.interrupted m others next) = r.render root := by
  rw [← renderWith_whole]
  obtain ⟨options, _ | p⟩ := r
  · simp only [renderWith, start]
    cases Scope.survey root with
    | error m => rfl
    | ok scope =>
        dsimp only
        rw [Script.run_interrupted (Option.some_ne_none _) hparts]
  · rfl

/-! ### What a history keeps -/

/-- A use of a renderer leaves it as it was. -/
theorem Use.run_of_idle {r : Renderer} (h : r.pass? = none) (use : Use) :
    (use.run r).2 = r := by
  cases use with
  | render root => exact r.render_snd root
  | renderWith root s => exact Renderer.renderWith_of_idle h root s s.samePass_run
  | transcode n => exact (r.samePass_perform fun env => ForumMarkup.transcode env n).eq_of_idle h
  | visit n => exact (r.samePass_perform fun env => ForumMarkup.visit env n).eq_of_idle h
  | context => rfl

/-- A history of uses leaves a renderer as it was, and each use comes to what it would have come to
by itself. -/
theorem runUses_of_idle {r : Renderer} (h : r.pass? = none) (uses : List Use) :
    runUses r uses = (uses.map fun use => (use.run r).1, r) := by
  induction uses with
  | nil => rfl
  | cons use uses ih => rw [runUses, use.run_of_idle h, ih, List.map_cons]

/-! ### Passes on one renderer -/

/-- What is said of a history of uses of a renderer with some options. -/
structure PassesIsolated (o : Options) (uses : List Use) : Prop where
  /-- Each use comes to what it comes to on a fresh renderer. -/
  answers : (runUses { options := o } uses).1 =
    uses.map fun use => (use.run { options := o }).1
  /-- No pass is left after any of them. -/
  idle : ∀ before, before <+: uses → (runUses { options := o } before).2.pass? = none
  /-- A pass after them gives what it gives on a renderer of its own. -/
  render : ∀ root, ((runUses { options := o } uses).2.render root).1 = renderDocument o root
  /-- It begins with no footnote numbered, and it knows of its own document only, unless a label of
  that document cannot be shown. -/
  start : ∀ root, (runUses { options := o } uses).2.start root =
    if FootnoteTable.canCollect root.preorder then
      .ok { options := o, pass? := some { scope := .ofDocument root, progress := {} } }
    else .error (.misfit .longInteger)
  /-- While it runs, another pass is refused, and nothing changes. -/
  refused : ∀ (p : Pass) (root : Node),
    ({ options := o, pass? := some p } : Renderer).render root =
      ((.error .passRunning, []), { options := o, pass? := some p })
  /-- So its outcome does not depend on the calls for other passes. -/
  quiet : ∀ (root : Node) (s : Script),
    (runUses { options := o } uses).2.renderWith root s =
      ({ options := o } : Renderer).renderWith root s.quiet
  /-- In particular, a pass in the middle of which others are called for gives what it gives
  otherwise. -/
  interrupted : ∀ {α : Type} (root : Node) (m : Environment → PassM α)
    (next : Environment → α → PassM String), (∀ env, document env root = m env >>= next env) →
      ∀ others, ((runUses { options := o } uses).2.renderWith root
        (.interrupted m others next)).1 = renderDocument o root
  /-- What it knows of its document is the same to its end. -/
  scope : ∀ (p : Pass) (s : Script),
    (s.run { options := o, pass? := some p }).2.scope = .ok p.scope
  /-- The refusal says why. -/
  message : Abort.passRunning.message? =
    some "A transcoding pass is already running on this renderer"

/-- **The passes on one renderer are independent of each other.** -/
theorem passesIsolated (o : Options) (uses : List Use) : PassesIsolated o uses where
  answers := by rw [runUses_of_idle rfl]
  idle before _ := by rw [runUses_of_idle rfl]
  render root := by
    rw [runUses_of_idle rfl]
    rfl
  start root := by
    rw [runUses_of_idle rfl]
    simp only [Renderer.start, Scope.survey]
    cases FootnoteTable.canCollect root.preorder <;> rfl
  refused p root := Renderer.render_of_running (Option.some_ne_none p) root
  quiet root s := by
    rw [runUses_of_idle rfl]
    exact Renderer.renderWith_quiet _ root s
  interrupted root m next hparts others := by
    rw [runUses_of_idle rfl, Renderer.renderWith_interrupted _ hparts]
    rfl
  scope p s := Renderer.SamePass.scope_eq (s.samePass_run _) rfl
  message := rfl

end ForumMarkup
