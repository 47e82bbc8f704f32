import ForumMarkup.Pass.Transcode
/-
**Renderers.**

A renderer has options, and while a pass runs on it also the scope and the progress of that pass.
Only one pass runs at a time.  A tree can be transcoded outside a pass too, but then nothing that
depends on the whole document has a meaning.

Main definitions:

* `ForumMarkup.Pass` — a running pass;
* `ForumMarkup.Renderer` — a renderer;
* `ForumMarkup.Renderer.start`, `ForumMarkup.Renderer.finish` — the beginning and the end of a pass;
* `ForumMarkup.Renderer.perform` — a computation as it goes on the renderer as it stands;
* `ForumMarkup.Renderer.render` — a whole pass;
* `ForumMarkup.Renderer.survey` — what a pass knows after the body of a document;
* `ForumMarkup.renderDocument` — a pass on a renderer of its own;
* `ForumMarkup.FootnoteTable.section` — the footnotes of a table outside a pass.
-/

set_option autoImplicit false

namespace ForumMarkup

/-- A running pass. -/
structure Pass where
  scope : Scope
  progress : Progress := {}

/-- A renderer, with the pass that runs on it. -/
structure Renderer where
  options : Options := {}
  pass? : Option Pass := none

namespace Renderer

/-- The environment that a renderer gives to computations. -/
def environment (r : Renderer) : Environment :=
  { options := r.options, scope? := r.pass?.map fun p => p.scope }

/-- The progress of the running pass; outside a pass there is none. -/
def progress (r : Renderer) : Progress :=
  match r.pass? with
  | some p => p.progress
  | none => {}

/-- The renderer after the running pass has made progress; outside a pass progress is lost. -/
def advance (r : Renderer) (progress : Progress) : Renderer :=
  { r with pass? := r.pass?.map fun p => { p with progress := progress } }

/-- A computation on the renderer as it stands: its outcome, and the renderer after it. -/
def perform {α : Type} (r : Renderer) (m : Environment → PassM α) : Except Abort α × Renderer :=
  let (outcome, progress) := (m r.environment).run.run r.progress
  (outcome, r.advance progress)

/-! ### Passes -/

/-- The renderer at the beginning of a pass over a document. -/
def start (r : Renderer) (root : Node) : Except Abort Renderer :=
  match r.pass? with
  | some _ => .error .passRunning
  | none =>
    match Scope.survey root with
    | .error m => .error (.misfit m)
    | .ok scope => .ok { r with pass? := some { scope := scope } }

/-- The renderer after the end of a pass. -/
def finish (r : Renderer) : Renderer :=
  { r with pass? := none }

/-- A whole pass over a document: its markup and its record, and the renderer after it. -/
def render (r : Renderer) (root : Node) : (Except Abort String × List PassEvent) × Renderer :=
  match r.start root with
  | .error e => ((.error e, []), r)
  | .ok r =>
    let (outcome, r) := r.perform fun env => document env root
    ((outcome, r.progress.record), r.finish)

/-- The scope of the running pass. -/
def scope (r : Renderer) : Except Abort Scope :=
  match r.pass? with
  | some p => .ok p.scope
  | none => .error .noPass

/-- The least headline level and the number of footnotes numbered when the body of a document has
been transcoded. -/
def survey (root : Node) : Int × Nat :=
  let scope : Scope := .ofDocument root
  let r : Renderer := { pass? := some { scope := scope } }
  let (_, r) := r.perform fun env => transcode env root
  (scope.topLevel.integer?.getD 0, r.progress.numbers.length)

end Renderer

/-- The markup of a document and the record of the pass, on a renderer of its own. -/
def renderDocument (options : Options) (root : Node) : Except Abort String × List PassEvent :=
  (Renderer.render { options := options } root).1

/-- The list of footnotes of a table in which each child of a definition is a document of its
own. -/
def FootnoteTable.section (t : FootnoteTable) (title : String) : Except Abort String :=
  noteSection (fun place => .ok (t.at? place))
    (fun definition => do
      let texts ← definition.children.mapM fun child => (renderDocument {} child).1
      return Text.trimmed ("".intercalate texts))
    title t.numbers.length

end ForumMarkup
