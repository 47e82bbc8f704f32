import ForumMarkup.Value.Basic
/-
**Arguments by place and by name.**

A constructor takes its leading arguments by place or by name, further ones by place only if it
collects them, and others by name only.  Arguments that are left out take their default, if they
have one.

Main definitions:

* `ForumMarkup.Parameter`, `ForumMarkup.Signature` — what a constructor takes;
* `ForumMarkup.Bound` — the arguments of a call, sorted by what they are for;
* `ForumMarkup.Signature.bind?` — the sorted arguments, if the call fits the signature.
-/

set_option autoImplicit false

namespace ForumMarkup

/-- A named argument, with what stands in when it is left out. -/
structure Parameter (α : Type) where
  name : String
  default? : Option α := none

/-- What a constructor takes. -/
structure Signature (α : Type) where
  /-- The arguments given by place or by name. -/
  leading : List (Parameter α) := []
  /-- Whether further arguments by place are collected. -/
  collects : Bool := false
  /-- The arguments given by name only. -/
  keyed : List (Parameter α) := []
  /-- Whether arguments of any other name are collected. -/
  collectsNamed : Bool := false

/-- The arguments of a call: one for each parameter in order, and those that were collected. -/
structure Bound (α : Type) where
  values : List α
  rest : List α := []
  others : List (String × α) := []

namespace Signature

/-- The value of a parameter: by place, by name, or its default.  It must not be given twice. -/
def valueOf {α : Type} (named : List (String × α)) (p : Parameter α) (placed? : Option α) :
    Option α :=
  match placed?, lookupEntry p.name named with
  | some _, some _ => none
  | some v, none => some v
  | none, some v => some v
  | none, none => p.default?

/-- The values of the leading parameters, and the arguments by place that are left. -/
def fill {α : Type} (named : List (String × α)) :
    List (Parameter α) → List α → Option (List α × List α)
  | [], rest => some ([], rest)
  | p :: ps, [] => do
    let v ← valueOf named p none
    let (vs, rest) ← fill named ps []
    return (v :: vs, rest)
  | p :: ps, a :: as => do
    let v ← valueOf named p (some a)
    let (vs, rest) ← fill named ps as
    return (v :: vs, rest)

/-- Whether a parameter has a name. -/
def names {α : Type} (s : Signature α) (name : String) : Bool :=
  (s.leading ++ s.keyed).any fun p => p.name == name

/-- The sorted arguments of a call, if they fit. -/
def bind? {α : Type} (s : Signature α) (placed : List α) (named : List (String × α)) :
    Option (Bound α) := do
  let (leading, rest) ← fill named s.leading placed
  let (keyed, _) ← fill named s.keyed []
  let others := named.filter fun e => !s.names e.1
  if !s.collects && !rest.isEmpty then none
  else if !s.collectsNamed && !others.isEmpty then none
  else return { values := leading ++ keyed, rest := rest, others := others }

end Signature

end ForumMarkup
