import ForumMarkup.Document.Serial
import ForumMarkup.Storage.FileTree
import ForumMarkup.Text.Blank
import ForumMarkup.Text.Digit
import ForumMarkup.Text.Newline
import ForumMarkup.Text.Utf8
/-
**Loading documents.**

A document comes as a tree, as an object that serialises one, as JSON text or as the path of a file
with JSON text.  A text that begins with a brace after any blanks is JSON text, every other text is
a path.  Files are UTF-8 and may end their lines in any way.

Main definitions:

* `ForumMarkup.Source` — where a document comes from;
* `ForumMarkup.LoadFault`, `ForumMarkup.LoadFault.isForeseen`, `ForumMarkup.LoadFault.stage?` — the
  reasons why it cannot be loaded, whether they are told to the user, and at which stage they show;
* `ForumMarkup.loadText` — the tree of a JSON text, with the record of what was assumed;
* `ForumMarkup.load` — the tree of a source, with its record.
-/

set_option autoImplicit false

namespace ForumMarkup

/-- Where a document comes from. -/
inductive Source
  | tree (root : Node)
  | mapping (entries : List (String × Value))
  | text (s : String)
  | path (p : Path)
  /-- Something of another type. -/
  | other (typeName : String)

/-- The reasons why a document cannot be loaded. -/
inductive LoadFault
  /-- A text is no document. -/
  | document (fault : DocumentFault)
  /-- An object is no tree. -/
  | tree (fault : TreeFault)
  /-- A file cannot be read. -/
  | unreadable (path : Path) (fault : StorageFault)
  /-- A file is not UTF-8. -/
  | notUtf8 (path : Path)
  /-- A source is of a type that holds no document. -/
  | sourceType (typeName : String)
deriving Repr

/-- The sentence shown to the user. -/
def LoadFault.message : LoadFault → String
  | .document fault => fault.message
  | .tree fault => fault.message
  | .unreadable path fault =>
    "Could not read document tree " ++ path.shown ++ ": " ++ fault.message path.shown
  | .notUtf8 path => "Document tree " ++ path.shown ++ " is not UTF-8"
  | .sourceType typeName => "Unsupported document source type: " ++ typeName

/-- Whether a fault is foreseen, for a limit to the digits of an integer. -/
def LoadFault.isForeseen (fault : LoadFault) (limit? : Option Nat := Text.digitLimit?) : Bool :=
  match fault with
  | .document fault => fault.isForeseen limit?
  | .tree fault => fault.isForeseen limit?
  | .unreadable _ .nullCharacter => false
  | .notUtf8 _ => false
  | _ => true

/-- The stage of loading at which a source turns out to give no text. -/
def inputStage : String := "input"

/-- The stage of loading at which a foreseen fault shows. -/
def LoadFault.stage? (fault : LoadFault) (limit? : Option Nat := Text.digitLimit?) :
    Option String :=
  if fault.isForeseen limit? then
    match fault with
    | .document fault => some fault.stage
    | .tree _ => some treeStage
    | .unreadable _ _ => some inputStage
    | .notUtf8 _ => none
    | .sourceType _ => some inputStage
  else none

/-- What loading records for those who watch it. -/
inductive LoadEvent
  /-- A file was read. -/
  | loaded (path : Path)
  /-- A document states no version. -/
  | versionAssumed
deriving DecidableEq, Repr

/-- The outcome of loading, with its record. -/
abbrev Loaded := Except LoadFault Node × List LoadEvent

/-- Whether a text is JSON text and not a path. -/
def looksLikeJson (s : String) : Bool :=
  (Text.trimStart s.toList).head? == some '\x7b'

/-- The tree of a JSON text. -/
def loadText (s : String) (limit? : Option Nat := Text.digitLimit?) : Loaded :=
  ((Node.ofJson true limit? s).mapError .document,
    if statesNoVersion limit? s then [.versionAssumed] else [])

/-- The text of a file. -/
def readText (files : FileTree) (directory : List String) (p : Path) : Except LoadFault String :=
  match files.read directory p with
  | .error fault => .error (.unreadable p fault)
  | .ok bytes =>
    match Text.utf8Decode? bytes with
    | none => .error (.notUtf8 p)
    | some cs => .ok (Text.plainLines (String.ofList cs))

/-- The tree of a file. -/
def loadPath (files : FileTree) (directory : List String) (p : Path)
    (limit? : Option Nat := Text.digitLimit?) : Loaded :=
  match readText files directory p with
  | .error fault => (.error fault, [])
  | .ok s =>
    let (outcome, record) := loadText s limit?
    (outcome, .loaded p :: record)

/-- The tree of a source.  The limit is that to the digits of an integer. -/
def load (files : FileTree) (directory : List String) (source : Source)
    (limit? : Option Nat := Text.digitLimit?) : Loaded :=
  match source with
  | .tree root => (.ok root, [])
  | .mapping entries => ((Node.ofValue (.object entries)).mapError .tree, [])
  | .text s =>
    if looksLikeJson s then loadText s limit? else loadPath files directory (.ofString s) limit?
  | .path p => loadPath files directory p limit?
  | .other typeName => (.error (.sourceType typeName), [])

end ForumMarkup
