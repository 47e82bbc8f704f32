import ForumMarkup.Storage.FileTree
import ForumMarkup.Text.Utf8
/-
**Destinations of output.**

Output is kept in memory, stored in a file, or sent to a stream in one piece.  Files and byte
streams get UTF-8.  A stream of unknown make says by its mode whether it takes bytes.

Main definitions:

* `ForumMarkup.Stream`, `ForumMarkup.Stream.takesBytes` — the makes of streams, and what they take;
* `ForumMarkup.Destination` — where output goes;
* `ForumMarkup.Delivery` — what became of it;
* `ForumMarkup.deliver` — output brought to its destination.
-/

set_option autoImplicit false

namespace ForumMarkup

/-- The makes of streams. -/
inductive Stream
  | textMemory
  | byteMemory
  | textFile
  | byteFile
  /-- Anything that can be written to, with the mode that it states. -/
  | custom (mode? : Option Value)

/-- Whether a stream takes bytes. -/
def Stream.takesBytes : Stream → Bool
  | .textMemory => false
  | .byteMemory => true
  | .textFile => false
  | .byteFile => true
  | .custom mode? =>
    match mode? with
    | some (.text mode) => mode.toList.contains 'b'
    | _ => false

/-- Where output goes. -/
inductive Destination
  | memory
  | path (p : Path)
  | stream (s : Stream)
  /-- Something that is no destination, of another type. -/
  | other (typeName : String)

/-- What became of output. -/
inductive Delivery
  /-- It is kept. -/
  | kept (s : String)
  /-- It is in a file. -/
  | stored (files : FileTree)
  /-- A stream got it as text. -/
  | sentText (s : String)
  /-- A stream got it as bytes. -/
  | sentBytes (bytes : List UInt8)

/-- The reasons why output cannot be brought to its destination. -/
inductive DeliveryFault
  /-- The system does not let the file be written. -/
  | unwritable (path : Path) (fault : StorageFault)
  /-- The path holds a null character, so the system is not even asked. -/
  | nullPath (path : Path)
  /-- The destination is of a type that takes no output. -/
  | destinationType (typeName : String)
deriving Repr

namespace DeliveryFault

/-- The fault of a path that cannot be opened for writing. -/
def ofStorage (p : Path) : StorageFault → DeliveryFault
  | .nullCharacter => .nullPath p
  | fault => .unwritable p fault

theorem ofStorage_of_ne {p : Path} {fault : StorageFault} (h : fault ≠ .nullCharacter) :
    ofStorage p fault = .unwritable p fault := by
  cases fault
  case nullCharacter => exact absurd rfl h
  all_goals rfl

/-- The sentence that goes with a fault. -/
def message : DeliveryFault → String
  | .unwritable path fault =>
    "Could not write output to " ++ path.shown ++ ": " ++ fault.message path.shown
  | .nullPath path => StorageFault.nullCharacter.message path.shown
  | .destinationType typeName => "Unsupported output type: <class " ++ Text.quoted typeName ++ ">"

end DeliveryFault

/-- Output brought to its destination. -/
def deliver (files : FileTree) (directory : List String) (content : String) :
    Destination → Except DeliveryFault Delivery
  | .memory => .ok (.kept content)
  | .path p =>
    match files.write directory p (Text.utf8Encode content.toList) with
    | .error fault => .error (.ofStorage p fault)
    | .ok files => .ok (.stored files)
  | .stream s =>
    if s.takesBytes then .ok (.sentBytes (Text.utf8Encode content.toList))
    else .ok (.sentText content)
  | .other typeName => .error (.destinationType typeName)

end ForumMarkup
