import ForumMarkup.Document.Load
import ForumMarkup.Pass.Renderer
import ForumMarkup.Storage.Output
/-
**Exporting a document.**

An export puts its options together, loads the document, transcodes it, and brings the markup to its
destination, in this order.  The first step that fails ends it, so that nothing is written unless
there is markup to write.

Main definitions:

* `ForumMarkup.ExportFault` — the reasons why an export fails, one for each step;
* `ForumMarkup.markupOf` — the markup of a source;
* `ForumMarkup.exportTo` — a whole export;
* `ForumMarkup.Attempt`, `ForumMarkup.tryExportTo` — the markup of an export, or the construct that
  was refused, as a result.
-/

set_option autoImplicit false

namespace ForumMarkup

/-- The reasons why an export fails. -/
inductive ExportFault
  | options (fault : OptionFault)
  | load (fault : LoadFault)
  | pass (reason : Abort)
  | delivery (fault : DeliveryFault)

/-- The markup of a source, under options with named settings on top. -/
def markupOf (files : FileTree) (directory : List String) (options : Options)
    (named : List (String × Setting)) (source : Source) : Except ExportFault String := do
  let options ← (options.adjust named).mapError .options
  let root ← (load files directory source).1.mapError .load
  (renderDocument options root).1.mapError .pass

/-- A whole export: the markup, and what became of it if it was given a destination. -/
def exportTo (files : FileTree) (directory : List String) (options : Options)
    (named : List (String × Setting)) (source : Source) (destination? : Option Destination) :
    Except ExportFault (String × Option Delivery) := do
  let markup ← markupOf files directory options named source
  match destination? with
  | none => return (markup, none)
  | some destination =>
    let delivery ← (deliver files directory markup destination).mapError .delivery
    return (markup, some delivery)

/-- The outcome of an attempt. -/
inductive Attempt
  | markup (s : String)
  | refused (u : Unsupported)

/-- The markup of a whole export, or the construct that was refused; other faults stay faults. -/
def tryExportTo (files : FileTree) (directory : List String) (options : Options)
    (named : List (String × Setting)) (source : Source) (destination? : Option Destination) :
    Except ExportFault Attempt :=
  match exportTo files directory options named source destination? with
  | .ok (s, _) => .ok (.markup s)
  | .error (.pass (.unsupported u)) => .ok (.refused u)
  | .error fault => .error fault

end ForumMarkup
