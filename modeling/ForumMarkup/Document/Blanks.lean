import ForumMarkup.Document.Misfit
import ForumMarkup.Document.Node
import ForumMarkup.Number.Machine
/-
**Blanks after a node.**

A node may be followed by blanks: an object by spaces, an element by line feeds.  Their number is a
property of any type; whatever counts as absent counts as zero, and numbers are cut to integers.

Main definitions:

* `ForumMarkup.Value.count` — the number that a value denotes;
* `ForumMarkup.Node.postBlank` — the number of blanks after a node;
* `ForumMarkup.blanks` — that many spaces or line feeds, for a number in the range of machine
  integers.
-/

set_option autoImplicit false

namespace ForumMarkup

/-- The integer that a value denotes as a number of blanks. -/
def Value.count (v : Value) : Except Misfit Int :=
  if !v.truthy then .ok 0
  else match v with
    | .null => .ok 0
    | .bool b => .ok (if b then 1 else 0)
    | .int n => .ok n
    | .float .nan => .error .unreadableCount
    | .float x =>
      match x.truncate? with
      | some n => .ok n
      | none => .error .unboundedCount
    | .text s =>
      match Text.readInteger? s.toList with
      | some n => .ok n
      | none => .error .unreadableCount
    | .illFormed _ => .error .unreadableCount
    | .list _ => .error .notCount
    | .object _ => .error .notCount

/-- The number of blanks after a node. -/
def Node.postBlank (n : Node) : Except Misfit Int :=
  ((n.value? "post_blank").getD .null).count

/-- Spaces after an object and line feeds after an element; none for a number below one. -/
def blanks (kind : Kind) (n : Int) : Except Misfit String :=
  if inMachineRange n then
    .ok (String.ofList (List.replicate n.toNat (if kind.isObject then ' ' else '\n')))
  else .error .unboundedCount

end ForumMarkup
