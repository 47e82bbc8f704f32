import ForumMarkup.Export
import ForumMarkup.Proofs.Storage.Fault
/-
**Output is all or nothing.**

An export in the library is a function: it tells what became of the output, if there is any.  Here
it is a program that acts on a world of files and streams, step after step, and a fault leaves the
world as it is at that moment.  Opening a file for writing makes it empty, unless the system refuses
to open it; so the order of the steps matters.  All that can fail comes before the first act, and
the acts after it bring the whole markup to the destination in one piece.

Main definitions:

* `ForumMarkup.Act`, `ForumMarkup.World` — what is done to files and streams, and the world it is
  done to;
* `ForumMarkup.Acting` — programs that act on a world;
* `ForumMarkup.exportActing`, `ForumMarkup.Renderer.renderActing` — an export, and a pass of a
  renderer with a destination, as such programs;
* `ForumMarkup.AllOrNothing` — **what the destination gets**: nothing, or everything in one piece.

Main results:

* `ForumMarkup.bring_path`, `ForumMarkup.bring_stream` — the acts of bringing markup to a
  destination;
* `ForumMarkup.exportTo_eq_exportActing` — the program does what the library does;
* `ForumMarkup.output_allOrNothing` — **output is all or nothing**.
-/

set_option autoImplicit false

namespace ForumMarkup

/-! ### Worlds -/

/-- What is done to files and streams. -/
inductive Act
  /-- The file at a place is opened for writing, which makes it empty. -/
  | opened (place : List String)
  /-- Bytes are written to the file at a place. -/
  | wrote (place : List String) (bytes : List UInt8)
  /-- A stream gets text. -/
  | sentText (s : String)
  /-- A stream gets bytes. -/
  | sentBytes (bytes : List UInt8)
deriving DecidableEq

/-- The files, and what has been done so far. -/
structure World where
  files : FileTree
  acts : List Act := []

/-- Programs that act on a world.  A fault leaves the world as it is. -/
abbrev Acting := EStateM ExportFault World

theorem get_apply (w : World) : (get : Acting World) w = .ok w w := rfl

/-- The result of a step that does not act. -/
def settled {α : Type} : Except ExportFault α → Acting α
  | .ok a => return a
  | .error fault => throw fault

/-! ### Destinations -/

/-- The file that a path leads to is opened for writing. -/
def openFile (directory : List String) (p : Path) : Acting (List String) := do
  let w ← get
  match w.files.target directory p with
  | .error fault => throw (.delivery (.ofStorage p fault))
  | .ok (place, _) =>
    set { w with files := w.files.put place (.file []), acts := w.acts ++ [Act.opened place] }
    return place

/-- Bytes are written to a file that has been opened. -/
def writeFile (place : List String) (bytes : List UInt8) : Acting Unit :=
  modify fun w =>
    { w with files := w.files.put place (.file bytes), acts := w.acts ++ [Act.wrote place bytes] }

/-- What a stream gets of markup. -/
def Stream.received (stream : Stream) (s : String) : Act :=
  if stream.takesBytes then .sentBytes (Text.utf8Encode s.toList) else .sentText s

/-- Markup is brought to its destination. -/
def bring (directory : List String) (s : String) : Destination → Acting Unit
  | .memory => return ()
  | .path p => do
    let place ← openFile directory p
    writeFile place (Text.utf8Encode s.toList)
  | .stream stream => modify fun w => { w with acts := w.acts ++ [stream.received s] }
  | .other typeName => throw (.delivery (.destinationType typeName))

/-! ### Exports -/

/-- An export, step after step. -/
def exportActing (directory : List String) (options : Options) (named : List (String × Setting))
    (source : Source) (destination? : Option Destination) : Acting String := do
  let options ← settled ((options.adjust named).mapError .options)
  let root ← settled ((load (← get).files directory source).1.mapError .load)
  let s ← settled ((renderDocument options root).1.mapError .pass)
  match destination? with
  | none => return s
  | some destination =>
    bring directory s destination
    return s

/-- A pass of a renderer whose markup is brought to a destination. -/
def Renderer.renderActing (r : Renderer) (directory : List String) (root : Node)
    (destination : Destination) : Acting String := do
  let s ← settled ((r.render root).1.1.mapError .pass)
  bring directory s destination
  return s

/-- The acts of an export once it is known what its markup is. -/
def deliverActing (directory : List String) (markup : FileTree → Except ExportFault String)
    (destination? : Option Destination) : Acting String := do
  let s ← settled (markup (← get).files)
  match destination? with
  | none => return s
  | some destination =>
    bring directory s destination
    return s

theorem exportActing_eq (directory : List String) (options : Options)
    (named : List (String × Setting)) (source : Source) (destination? : Option Destination) :
    exportActing directory options named source destination? =
      deliverActing directory (fun files => markupOf files directory options named source)
        destination? := by
  funext w
  rw [exportActing, deliverActing]
  simp only [markupOf, bind, EStateM.bind, get_apply, Except.bind]
  cases (options.adjust named).mapError ExportFault.options with
  | error fault => rfl
  | ok options =>
      simp only [settled, pure, EStateM.pure]
      cases (load w.files directory source).1.mapError ExportFault.load with
      | error fault => rfl
      | ok root => rfl

theorem renderActing_eq (r : Renderer) (directory : List String) (root : Node)
    (destination : Destination) :
    r.renderActing directory root destination =
      deliverActing directory (fun _ => (r.render root).1.1.mapError .pass) (some destination) :=
  rfl

/-! ### What the destination gets -/

section

variable {directory : List String} {w : World} {s : String}

theorem deliverActing_error {markup : FileTree → Except ExportFault String} {fault : ExportFault}
    (h : markup w.files = .error fault) (destination? : Option Destination) :
    deliverActing directory markup destination? w = .error fault w := by
  simp only [deliverActing, bind, EStateM.bind, get_apply, h]
  rfl

theorem deliverActing_ok {markup : FileTree → Except ExportFault String}
    (h : markup w.files = .ok s) (destination : Destination) :
    deliverActing directory markup (some destination) w =
      match bring directory s destination w with
      | .ok () w' => .ok s w'
      | .error fault w' => .error fault w' := by
  simp only [deliverActing, bind, EStateM.bind, get_apply, h,
    settled, pure, EStateM.pure]
  cases bring directory s destination w <;> rfl

/-- A file is opened, and gets everything in one piece. -/
theorem bring_path {p : Path} {place : List String} {before : List UInt8}
    (htarget : w.files.target directory p = .ok (place, before)) :
    bring directory s (.path p) w =
      .ok () { w with
        files := (w.files.put place (.file [])).put place (.file (Text.utf8Encode s.toList))
        acts := w.acts ++ [.opened place, .wrote place (Text.utf8Encode s.toList)] } := by
  simp only [bring, openFile, writeFile, bind, EStateM.bind, get_apply, htarget]
  rw [List.append_cons w.acts (.opened place) [.wrote place (Text.utf8Encode s.toList)]]
  rfl

theorem bring_path_refused {p : Path} {fault : StorageFault}
    (htarget : w.files.target directory p = .error fault) :
    bring directory s (.path p) w = .error (.delivery (.ofStorage p fault)) w := by
  simp only [bring, openFile, bind, EStateM.bind, get_apply,
    htarget]
  rfl

/-- A stream gets everything in one piece. -/
theorem bring_stream (stream : Stream) :
    bring directory s (.stream stream) w =
      .ok () { w with acts := w.acts ++ [stream.received s] } := rfl

end

/-- What the destination of a program gets, if the program is to bring there the markup that can be
made from the files: nothing, or everything in one piece. -/
structure AllOrNothing (directory : List String) (markup : FileTree → Except ExportFault String)
    (destination : Destination) (program : Acting String) : Prop where
  /-- Without markup the world stays as it was. -/
  nothing : ∀ w fault, markup w.files = .error fault → program w = .error fault w
  /-- A file is opened and gets the UTF-8 of the markup in one piece, so that the path leads to a
  file that holds it; nothing else changes, and the program gives the markup back. -/
  file : ∀ p, destination = .path p → ∀ w s place before, markup w.files = .ok s →
    w.files.target directory p = .ok (place, before) →
      ∃ files, program w =
          .ok s { w with
            files := files
            acts := w.acts ++ [.opened place, .wrote place (Text.utf8Encode s.toList)] } ∧
        FileTree.Change place (Text.utf8Encode s.toList) w.files files ∧
        files.locate directory p = .ok (.file place (Text.utf8Encode s.toList)) ∧
        (files.refuses .read place = false →
          files.read directory p = .ok (Text.utf8Encode s.toList))
  /-- A path that the system does not let be written is refused, and the world stays as it was. -/
  refused : ∀ p, destination = .path p → ∀ w s fault, markup w.files = .ok s →
    w.files.target directory p = .error fault → fault ≠ .nullCharacter →
      program w = .error (.delivery (.unwritable p fault)) w
  /-- A path with a null character has a fault of its own, and the world stays as it was. -/
  unasked : ∀ p, destination = .path p → ∀ w s, markup w.files = .ok s →
    w.files.target directory p = .error .nullCharacter →
      program w = .error (.delivery (.nullPath p)) w
  /-- A stream gets the markup in one piece, as text or in UTF-8, and the program gives the markup
  back. -/
  stream : ∀ stream, destination = .stream stream → ∀ w s, markup w.files = .ok s →
    program w = .ok s { w with acts := w.acts ++ [stream.received s] }

theorem allOrNothing_deliverActing (directory : List String)
    (markup : FileTree → Except ExportFault String) (destination : Destination) :
    AllOrNothing directory markup destination
      (deliverActing directory markup (some destination)) where
  nothing w fault h := deliverActing_error h _
  file := by
    rintro p rfl w s place before hmarkup htarget
    -- Opening the file makes it empty and writing changes it again: together this is one change.
    have hroom := FileTree.hasRoom_of_target htarget
    have hopen := FileTree.change_put hroom []
    have hwrite := FileTree.change_put (.inl ⟨[], hopen.at_place⟩) (Text.utf8Encode s.toList)
    have hchange := hopen.trans hwrite
    have hlocate := hchange.leadsTo_of_target htarget
    refine ⟨_, ?_, hchange, hlocate, FileTree.read_of_permitted hlocate⟩
    rw [deliverActing_ok hmarkup, bring_path htarget]
  refused := by
    rintro p rfl w s fault hmarkup htarget hfault
    rw [deliverActing_ok hmarkup, bring_path_refused htarget, DeliveryFault.ofStorage_of_ne hfault]
  unasked := by
    rintro p rfl w s hmarkup htarget
    rw [deliverActing_ok hmarkup, bring_path_refused htarget]
    rfl
  stream := by
    rintro stream rfl w s hmarkup
    rw [deliverActing_ok hmarkup, bring_stream]

/-! ### The library -/

/-- What the library says has become of markup, after the program has brought it to a destination in
a world. -/
def deliveryOf (s : String) (files : FileTree) : Destination → Delivery
  | .memory => .kept s
  | .path _ => .stored files
  | .stream stream =>
    if stream.takesBytes then .sentBytes (Text.utf8Encode s.toList) else .sentText s
  | .other _ => .kept s

/-- The program does what the library does. -/
theorem exportTo_eq_exportActing (directory : List String) (options : Options)
    (named : List (String × Setting)) (source : Source) (destination : Destination) (w : World) :
    exportTo w.files directory options named source (some destination) =
      match exportActing directory options named source (some destination) w with
      | .ok s w' => .ok (s, some (deliveryOf s w'.files destination))
      | .error fault _ => .error fault := by
  rw [exportActing_eq, exportTo]
  cases hmarkup : markupOf w.files directory options named source with
  | error fault =>
      rw [deliverActing_error hmarkup]
      rfl
  | ok s =>
      rw [deliverActing_ok hmarkup]
      cases destination with
      | memory => rfl
      | other typeName => rfl
      | stream stream =>
          rw [bring_stream]
          simp only [bind, Except.bind, deliver, deliveryOf]
          cases stream.takesBytes <;> rfl
      | path p =>
          simp only [bind, Except.bind, deliver, FileTree.write]
          cases htarget : w.files.target directory p with
          | error fault =>
              rw [bring_path_refused htarget]
              rfl
          | ok q =>
              obtain ⟨place, before⟩ := q
              rw [bring_path htarget]
              simp only [FileTree.put_put]
              rfl

/-- Markup is made if the options can be put together, the source can be loaded and the tree can be
transcoded, and then it is what a pass over the tree under the options gives. -/
theorem markupOf_eq_ok {files : FileTree} {directory : List String} {options : Options}
    {named : List (String × Setting)} {source : Source} {s : String} :
    markupOf files directory options named source = .ok s ↔
      ∃ adjusted root, options.adjust named = .ok adjusted ∧
        (load files directory source).1 = .ok root ∧ (renderDocument adjusted root).1 = .ok s := by
  rw [markupOf]
  cases options.adjust named with
  | error fault =>
      change (Except.error (ExportFault.options fault) : Except ExportFault String) = .ok s ↔ _
      simp
  | ok adjusted =>
      cases (load files directory source).1 with
      | error fault =>
          change (Except.error (ExportFault.load fault) : Except ExportFault String) = .ok s ↔ _
          simp
      | ok root =>
          change (renderDocument adjusted root).1.mapError ExportFault.pass = .ok s ↔ _
          cases hpass : (renderDocument adjusted root).1 with
          | error reason =>
              change (Except.error (.pass reason) : Except ExportFault String) = .ok s ↔ _
              simp [hpass]
          | ok text =>
              change (Except.ok text : Except ExportFault String) = .ok s ↔ _
              simp [hpass]

/-- **Output is all or nothing**, in an export of a source and in a pass of a renderer, whatever the
destination.  The markup of an export is that of a pass over the document under the options, and the
export is that of the library. -/
theorem output_allOrNothing (directory : List String) (destination : Destination) :
    (∀ options named source,
      AllOrNothing directory (fun files => markupOf files directory options named source)
          destination (exportActing directory options named source (some destination)) ∧
        (∀ files s, markupOf files directory options named source = .ok s ↔
          ∃ adjusted root, options.adjust named = .ok adjusted ∧
            (load files directory source).1 = .ok root ∧
            (renderDocument adjusted root).1 = .ok s) ∧
        ∀ w : World,
          exportTo w.files directory options named source (some destination) =
            match exportActing directory options named source (some destination) w with
            | .ok s w' => .ok (s, some (deliveryOf s w'.files destination))
            | .error fault _ => .error fault) ∧
    ∀ (r : Renderer) root,
      AllOrNothing directory (fun _ => (r.render root).1.1.mapError .pass) destination
        (r.renderActing directory root destination) := by
  constructor
  · intro options named source
    refine ⟨?_, fun files s => markupOf_eq_ok, fun w => exportTo_eq_exportActing _ _ _ _ _ w⟩
    rw [exportActing_eq]
    exact allOrNothing_deliverActing directory _ destination
  · intro r root
    rw [renderActing_eq]
    exact allOrNothing_deliverActing directory _ destination

end ForumMarkup
