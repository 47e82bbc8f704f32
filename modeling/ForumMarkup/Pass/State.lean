import ForumMarkup.Markup.Footnote
import ForumMarkup.Markup.Link
import ForumMarkup.Options
import ForumMarkup.Text.Blank
/-
**What a pass knows and what it changes.**

A pass over a document knows its options and, from a look at the whole document beforehand, the
definitions of its footnotes and the least level of its headlines.  While it runs it numbers
footnotes and records what it did.

Main definitions:

* `ForumMarkup.Abort` — the reasons why a pass can end early;
* `ForumMarkup.Scope`, `ForumMarkup.Scope.ofDocument` — what a pass knows of its document;
* `ForumMarkup.Scope.survey` — the look at the document that a pass begins with;
* `ForumMarkup.Environment` — options, the way of trimming, and the scope of a running pass;
* `ForumMarkup.Progress` — the labels numbered so far and the record;
* `ForumMarkup.PassM` — computations of a pass, which keep their progress when they abort;
* `ForumMarkup.Fragment` — what a node becomes: text, or a value that cannot be joined with text.
-/

set_option autoImplicit false

namespace ForumMarkup

/-! ### Ending early -/

/-- The reasons why a pass can end early. -/
inductive Abort
  /-- The document holds something that the markup cannot express. -/
  | unsupported (u : Unsupported)
  /-- A property holds a value that does not fit its use. -/
  | misfit (m : Misfit)
  /-- Something that needs a running pass is asked for while none is running. -/
  | noPass
  /-- A pass is asked for while one is running. -/
  | passRunning
deriving Repr

namespace Abort

/-- The refusal of a construct whose message shows a value, if that can be shown. -/
def refusal (u : Unsupported) (named : Value) : Abort :=
  if named.isShowable then .unsupported u else .misfit .longInteger

/-- The sentence shown to the user.  A misfit is a fault of the program that built the tree and has
none. -/
def message? : Abort → Option String
  | .unsupported u => some u.message
  | .misfit _ => none
  | .noPass => some "No transcoding pass is running; use render_to_string()"
  | .passRunning => some "A transcoding pass is already running on this renderer"

end Abort

/-! ### The scope of a pass -/

/-- What a pass knows of its document. -/
structure Scope where
  definitions : List (String × Node) := []
  topLevel : Value := .int 1

/-- The level of a headline that takes part in finding the least one. -/
def levelOf? (n : Node) : Option Value :=
  if n.kind = .headline then
    match n.value? "level" with
    | some (.int k) => some (.int k)
    | some (.bool b) => some (.bool b)
    | _ => none
  else none

/-- The lesser of two levels, the first one of equals. -/
def lesserLevel (a b : Value) : Value :=
  if b.integer?.getD 0 < a.integer?.getD 0 then b else a

/-- The least level of the headlines of a document; one if no headline has a level. -/
def topLevelOf (ns : List Node) : Value :=
  match ns.filterMap levelOf? with
  | [] => .int 1
  | first :: others => others.foldl lesserLevel first

namespace Scope

/-- What a pass over a document knows of it. -/
def ofDocument (root : Node) : Scope :=
  { definitions := FootnoteTable.collect root.preorder, topLevel := topLevelOf root.preorder }

/-- The look at a document that a pass begins with: the labels of all definitions have to be
shown. -/
def survey (root : Node) : Except Misfit Scope :=
  if FootnoteTable.canCollect root.preorder then .ok (ofDocument root) else .error .longInteger

/-- A level counted from the least level of the document, which is level one. -/
def relativeLevel (s : Scope) (level : Int) : Int :=
  level - s.topLevel.integer?.getD 0 + 1

/-- A level of any type, counted from the least level.  Truth values count as integers, and a
floating-point number stays one. -/
def relativeLevelOf (s : Scope) (level : Value) : Except Misfit Value :=
  match level, level.integer? with
  | .float x, _ =>
    match Binary64.ofInt? (s.topLevel.integer?.getD 0) with
    | some top => .ok (.float ((x.add top.negate).add .one))
    | none => .error .unboundedLevel
  | _, some n => .ok (.int (s.relativeLevel n))
  | _, none => .error .notLevel

end Scope

/-! ### Environment and progress -/

/-- What does not change during a pass.  Outside a pass there is no scope. -/
structure Environment where
  options : Options := {}
  trim : String → String := Text.trimmed
  scope? : Option Scope := none

/-- What a pass records for those who watch it. -/
inductive PassEvent
  /-- A pass over a tree began. -/
  | began (kind : Kind)
  /-- A link was resolved to a URL. -/
  | resolved (scheme target url : String)
  /-- The footnotes were listed. -/
  | listed (count : Nat)
deriving DecidableEq, Repr

/-- What a pass changes. -/
structure Progress where
  numbers : List String := []
  record : List PassEvent := []
deriving DecidableEq, Repr

instance : Inhabited Progress := ⟨{}⟩

/-- Computations of a pass.  Progress outlives an abort. -/
abbrev PassM := ExceptT Abort (StateM Progress)

namespace PassM

/-- A step that can refuse a construct. -/
def ofUnsupported {α : Type} : Except Unsupported α → PassM α
  | .ok a => pure a
  | .error u => throw (.unsupported u)

/-- A step that can meet a value that does not fit. -/
def ofMisfit {α : Type} : Except Misfit α → PassM α
  | .ok a => pure a
  | .error m => throw (.misfit m)

/-- A step that can end the pass early. -/
def ofExcept {α : Type} : Except Abort α → PassM α
  | .ok a => pure a
  | .error e => throw e

/-- Adds to the record. -/
def note (e : PassEvent) : PassM Unit :=
  modify fun p => { p with record := p.record ++ [e] }

end PassM

/-- The scope of the running pass. -/
def Environment.scope (env : Environment) : PassM Scope :=
  match env.scope? with
  | some s => pure s
  | none => throw .noPass

/-- The number of a footnote, given on first use. -/
def footnoteNumber (env : Environment) (label : String) : PassM Nat := do
  let scope ← env.scope
  let progress ← get
  let table : FootnoteTable := { definitions := scope.definitions, numbers := progress.numbers }
  let (number, table) ← PassM.ofUnsupported (table.numberFor label)
  set { progress with numbers := table.numbers }
  return number

/-! ### Fragments -/

/-- What a node becomes.  An entity stands for the value that it carries, whatever its type. -/
inductive Fragment
  | text (s : String)
  | stray (v : Value)
deriving Repr

namespace Fragment

/-- The text of a fragment. -/
def text? : Fragment → Except Misfit String
  | .text s => .ok s
  | .stray _ => .error .notText

/-- The text of a list of fragments. -/
def join : List Fragment → Except Misfit String
  | [] => .ok ""
  | f :: fs => do
    let s ← f.text?
    return s ++ (← join fs)

/-- The fragment that a value stands for. -/
def ofValue (v : Value) : Fragment :=
  match v.asText? with
  | some s => .text s
  | none => .stray v

/-- The value that a fragment stands for. -/
def toValue : Fragment → Value
  | .text s => .text s
  | .stray v => v

end Fragment

end ForumMarkup
