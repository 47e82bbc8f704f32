import ForumMarkup.Document.Codec
import ForumMarkup.Document.Misfit
import ForumMarkup.Json.Reader
import ForumMarkup.Json.Writer
/-
**Trees as JSON text.**

A document is stored as the JSON text of its root node, with the version of the notation in front.
A text without a version is taken to be of the version that the library writes.  Texts are read and
written with a limit to the digits of an integer, or with none.

Main definitions:

* `ForumMarkup.schemaVersion` — the version;
* `ForumMarkup.DocumentFault` — the reasons why a text is no document, with their stage;
* `ForumMarkup.DocumentFault.isForeseen` — whether a reason is told to the user;
* `ForumMarkup.Node.ofJson` — the tree of a text;
* `ForumMarkup.Node.toJson` — the text of a tree.
-/

set_option autoImplicit false

namespace ForumMarkup

/-- The version of the notation. -/
def schemaVersion : Int := 1

/-! ### Faults -/

/-- The stage of reading at which a value turns out to be no tree. -/
def treeStage : String := "structure"

/-- The reasons why a text is no document. -/
inductive DocumentFault
  /-- The text is not read as JSON. -/
  | notJson (failure : Json.Failure)
  /-- The text is JSON, but no object. -/
  | notObject
  /-- The text is of another version of the notation. -/
  | version (found : Value)
  /-- The object is no tree. -/
  | tree (fault : TreeFault)
deriving Repr

namespace DocumentFault

/-- The sentence shown to the user. -/
def message : DocumentFault → String
  | .notJson failure => "Invalid JSON document tree: " ++ failure.message
  | .notObject => "JSON document tree must be an object"
  | .version found =>
    "Unsupported schema version " ++ found.quoted ++ " (supported: " ++ toString schemaVersion ++
      ")"
  | .tree fault => fault.message

/-- Whether a fault is foreseen: it is, unless an integer has too many digits, be it one of the
JSON text or one that the sentence would show. -/
def isForeseen (fault : DocumentFault) (limit? : Option Nat := Text.digitLimit?) : Bool :=
  match fault with
  | .notJson failure => failure.problem.isMalformed
  | .version found => found.isShowable limit?
  | .tree fault => fault.isForeseen limit?
  | _ => true

/-- The stage of reading at which a fault shows. -/
def stage : DocumentFault → String
  | .notJson _ => "json"
  | .notObject => "json"
  | .version _ => "schema"
  | .tree _ => treeStage

end DocumentFault

/-! ### Reading -/

/-- The version that a serialised document states; null states none. -/
def statedVersion? (entries : List (String × Value)) : Option Value :=
  match lookupEntry "schema_version" entries with
  | some .null => none
  | v => v

/-- The tree of a value that was read from a text.  The version is checked on request. -/
def Node.ofDocument (checkVersion : Bool) : Value → Except DocumentFault Node
  | .object entries =>
    let refused := match statedVersion? entries with
      | some v => if checkVersion && !v.isOne then some v else none
      | none => none
    match refused with
    | some v => .error (.version v)
    | none =>
      match Node.ofValue (.object (dropEntry "schema_version" entries)) with
      | .error fault => .error (.tree fault)
      | .ok n => .ok n
  | _ => .error .notObject

/-- The value that a text denotes. -/
def readValue (limit? : Option Nat) (source : String) : Except DocumentFault Value :=
  match Json.read limit? source.toList with
  | .error failure => .error (.notJson failure)
  | .ok v => .ok v

/-- The tree of a text.  The version is checked on request, and there may be a limit to the digits
of an integer. -/
def Node.ofJson (checkVersion : Bool) (limit? : Option Nat) (source : String) :
    Except DocumentFault Node := do
  Node.ofDocument checkVersion (← readValue limit? source)

/-- Whether a text is an object that states no version. -/
def statesNoVersion (limit? : Option Nat) (source : String) : Bool :=
  match readValue limit? source with
  | .ok (.object entries) => (statedVersion? entries).isNone
  | _ => false

/-! ### Writing -/

/-- The value of a document: the value of its tree with the version in front. -/
def Node.toDocument (n : Node) : Value :=
  match n.toValue with
  | .object entries => .object (("schema_version", .int schemaVersion) :: entries)
  | v => v

/-- The text of a tree.  A passage that holds something else than nodes has none, nor do nodes in
another place, an indent that does not fit, and an integer with too many digits. -/
def Node.toJson (n : Node) (layout : Json.Layout) (limit? : Option Nat := Text.digitLimit?) :
    Except Misfit String :=
  if !n.passagesHoldNodes then .error .notNode
  else if !layout.fits then .error .unboundedCount
  else if !n.nodesInPassages then .error .notJson
  else if !n.toDocument.isShowable limit? then .error .longInteger
  else .ok (Json.write layout n.toDocument)

end ForumMarkup
