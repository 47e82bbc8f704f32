import ForumMarkup.Config.Yaml.Node
import ForumMarkup.Config.Yaml.Token.Sequence
import ForumMarkup.Text.Encoding
/-
**Reading YAML.**

A node means what its tag says.  A mapping under the merge key, or a list of mappings, adds its
entries in front of the others, so that the others win.  A text with more than one fault has the one
that is nearest to the root, and on one level the first one: the contents of lists and mappings get
their meaning level by level.

Main definitions:

* `ForumMarkup.Yaml.Graded`, `ForumMarkup.Yaml.Graded.both` — outcomes with the level of a fault;
* `ForumMarkup.Yaml.Shape.setting` — the setting of a node;
* `ForumMarkup.Yaml.readText`, `ForumMarkup.Yaml.read` — the setting of a text and of a file.
-/

set_option autoImplicit false

namespace ForumMarkup.Yaml

/-! ### Faults on levels -/

/-- What is found, or the fault that comes first, with its level below where the search begins. -/
abbrev Graded (α : Type) := Except (Nat × Fault) α

namespace Graded

/-- What is found here. -/
def here {α : Type} (r : Except Fault α) : Graded α := r.mapError fun f => (0, f)

/-- What is found one level below. -/
def below {α : Type} (r : Graded α) : Graded α := r.mapError fun (n, f) => (n + 1, f)

/-- Two things that are found side by side.  Of two faults the one on the upper level comes first,
and on one level that of the first thing. -/
def both {α β : Type} : Graded α → Graded β → Graded (α × β)
  | .ok a, .ok b => .ok (a, b)
  | .ok _, .error g => .error g
  | .error f, .ok _ => .error f
  | .error f, .error g => .error (if g.1 < f.1 then g else f)

/-- Two lists that are found side by side, one after the other. -/
def append {α : Type} (r₁ r₂ : Graded (List α)) : Graded (List α) :=
  (r₁.both r₂).map fun (xs, ys) => xs ++ ys

end Graded

/-! ### Entries -/

/-- The entries of a mapping that are found. -/
abbrev Entries := Graded (List (Setting × Setting))

/-- The entries of a mapping in which each key stands once. -/
def uniqueEntries (es : List (Setting × Setting)) : List (Setting × Setting) :=
  es.foldl (fun m e => putKey e.1 e.2 m) []

/-- What the entries of a mapping are with its tag: the mapping, or the set of the keys. -/
def collected (tag : Tag) (es : List (Setting × Setting)) : Setting :=
  if tag == .set then .set ((uniqueEntries es).map fun e => e.1) else .mapping (uniqueEntries es)

mutual
/-- Whether everything under merge keys is a mapping or a list of mappings. -/
def mergesFit : List (Shape × Shape) → Bool
  | [] => true
  | (k, v) :: rest => (k.tag != .merge || v.isMergeable) && mergesFit rest
/-- Whether a node can stand under a merge key. -/
def Shape.isMergeable : Shape → Bool
  | .scalar _ _ => false
  | .mapping _ entries => mergesFit entries
  | .list _ items => areMappings items
/-- Whether the items of a list are mappings that can be merged. -/
def areMappings : List Shape → Bool
  | [] => true
  | .mapping _ entries :: items => mergesFit entries && areMappings items
  | _ :: _ => false
end

/-! ### Meaning -/

mutual
/-- The text of a node that is read as a scalar: that of a scalar, or that under the equals sign. -/
def Shape.text? : Shape → Option String
  | .scalar _ s => some s
  | .list _ _ => none
  | .mapping _ entries => equalsText? entries
/-- The text under the equals sign in a mapping. -/
def equalsText? : List (Shape × Shape) → Option String
  | [] => none
  | (k, v) :: rest => if k.tag == .equals then v.text? else equalsText? rest
end

/-- The setting of a key, which has to be a scalar; the equals sign is text. -/
def Shape.key : Shape → Except Fault Setting
  | .scalar .equals s => .ok (.text s)
  | .scalar tag s => scalarSetting tag s
  | .list _ _ => .error .malformed
  | .mapping tag entries =>
    match equalsText? entries with
    | some s => scalarSetting (if tag == .equals then .text else tag) s
    | none => .error .malformed

/-- The fault of a node that is not what its tag says.  That something is not made of other nodes
shows where its contents are looked at. -/
def misfit {α : Type} (tag : Tag) : Graded α :=
  .error (if tag.isCollection then 1 else 0, .malformed)

mutual
/-- The setting of a node. -/
def Shape.setting : Shape → Graded Setting
  | .scalar tag s => if tag.isCollection then misfit tag else .here (scalarSetting tag s)
  | .list tag items =>
    if tag == .list then (settings items).below.map .list
    else if tag == .pairs then (pairs items).below.map .list
    else misfit tag
  | .mapping tag entries =>
    if tag == .mapping || tag == .set then
      if mergesFit entries then
        let (merged, own) := splitEntries entries
        (merged.append own).below.map (collected tag)
      else misfit tag
    else if tag.isCollection then misfit tag
    else
      match equalsText? entries with
      | some s => .here (scalarSetting tag s)
      | none => misfit tag

/-- The settings of the items of a list. -/
def settings : List Shape → Graded (List Setting)
  | [] => .ok []
  | item :: items => (item.setting.both (settings items)).map fun (v, vs) => v :: vs

/-- The pairs of a list of mappings with one entry each. -/
def pairs : List Shape → Graded (List Setting)
  | [] => .ok []
  | .mapping _ [(k, v)] :: items =>
    ((k.setting.both v.setting).both (pairs items)).map fun (e, es) => .pair e.1 e.2 :: es
  | _ :: _ => .error (0, .malformed)

/-- The entries of a mapping: those that are merged, which count first, and its own. -/
def splitEntries : List (Shape × Shape) → Entries × Entries
  | [] => (.ok [], .ok [])
  | (k, v) :: rest =>
    let (merged, own) := splitEntries rest
    if k.tag == .merge then ((mergedEntries v).append merged, own)
    else (merged, (((Graded.here k.key).both v.setting).both own).map fun (e, es) => e :: es)

/-- The entries that a merged node adds: those of a mapping, or those of a list of mappings from the
last one to the first. -/
def mergedEntries : Shape → Entries
  | .mapping _ entries =>
    let (merged, own) := splitEntries entries
    merged.append own
  | .list _ items => listedEntries items
  | .scalar _ _ => misfit .merge

/-- The entries of a list of mappings from the last one to the first. -/
def listedEntries : List Shape → Entries
  | [] => .ok []
  | .mapping _ entries :: items =>
    let (merged, own) := splitEntries entries
    (listedEntries items).append (merged.append own)
  | _ :: _ => misfit .merge
end

/-! ### Whole texts -/

/-- The characters of a file: a byte order mark of two bytes shows two bytes a character, and
without one the file is UTF-8. -/
def characters? (bytes : List UInt8) : Option (List Char) :=
  match bytes with
  | 0xFF :: 0xFE :: _ => Text.utf16Decode? true bytes
  | 0xFE :: 0xFF :: _ => Text.utf16Decode? false bytes
  | _ => Text.utf8Decode? bytes

/-- The setting of a text. -/
def readText (source : List Char) : Except Fault Setting := do
  let ts ← wellFormed (tokens source)
  let root ← document ts
  root.setting.mapError fun (_, f) => f

/-- The setting of a file. -/
def read (bytes : List UInt8) : Except Fault Setting := do
  readText (← wellFormed (characters? bytes))

end ForumMarkup.Yaml
