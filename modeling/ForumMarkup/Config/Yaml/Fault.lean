/-
**What is wrong with a YAML text.**

Most texts that give no setting are malformed, and that is foreseen.  A few faults are not: a word
that is no truth value, a number without characters, a time that has not the form of one, and
numbers that are too great to be taken at all.

Main definitions:

* `ForumMarkup.Yaml.Fault`, `ForumMarkup.Yaml.Fault.isForeseen` — the faults;
* `ForumMarkup.Yaml.wellFormed` — what is there, or a malformed text.
-/

set_option autoImplicit false

namespace ForumMarkup.Yaml

/-- The reasons why a text gives no setting. -/
inductive Fault
  | malformed
  /-- A word is no truth value. -/
  | notBool
  /-- A number has no characters. -/
  | emptyNumber
  /-- A time has not the form of one. -/
  | notTime
  /-- A number is beyond those of the machine: that of an escaped character, or the weight of a
  group of sixty. -/
  | overflow
deriving DecidableEq, Repr

/-- Whether a fault is foreseen. -/
def Fault.isForeseen : Fault → Bool
  | .malformed => true
  | _ => false

/-- What is there, or a malformed text. -/
def wellFormed {α : Type} : Option α → Except Fault α
  | some a => .ok a
  | none => .error .malformed

end ForumMarkup.Yaml
