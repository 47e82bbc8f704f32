import ForumMarkup.Config.Yaml.Scalar
import ForumMarkup.Config.Yaml.Token.Basic
/-
**Nodes of YAML.**

The tokens of a text spell out one node: a scalar, a list or a mapping.  What is left out between
two marks counts as an empty scalar, which is null.  A tag in front of a node says what it is;
without one lists and mappings are what they look like, scalars between quotes are text, and plain
ones are what their form says.  An alias stands for the node with its anchor.  A node that holds
itself cannot be spelled out; it holds an empty list in that place.  No anchor is given twice.

Main definitions:

* `ForumMarkup.Yaml.Shape` — nodes before they are given a meaning;
* `ForumMarkup.Yaml.Feed` — the tokens that are left, with the nodes that have anchors;
* `ForumMarkup.Yaml.node`, `ForumMarkup.Yaml.document` — the node that tokens spell out.
-/

set_option autoImplicit false

namespace ForumMarkup.Yaml

/-! ### Nodes -/

/-- A node before it is given a meaning. -/
inductive Shape
  | scalar (tag : Tag) (s : String)
  | list (tag : Tag) (items : List Shape)
  | mapping (tag : Tag) (entries : List (Shape × Shape))
deriving Repr

/-- The tag of a node. -/
def Shape.tag : Shape → Tag
  | .scalar tag _ => tag
  | .list tag _ => tag
  | .mapping tag _ => tag

/-- The node that stands where nothing is written. -/
def Shape.blank : Shape := .scalar .null ""

/-- Why nothing begins or goes on with the tokens that are left. -/
def stuck : List Token → Fault
  | .overflow :: _ => .overflow
  | _ => .malformed

/-! ### Properties -/

/-- What handles stand for in the names of tags. -/
abbrev Handles := List (String × String)

/-- The handles that need no directive. -/
def standardHandles : Handles := [("!", "!"), ("!!", standardNames)]

/-- The name of a tag that is written in full or after a handle. -/
def fullName? (handles : Handles) (handle? : Option String) (suffix : String) : Option String :=
  match handle? with
  | none => some suffix
  | some handle => (lookupEntry handle handles).map fun leading => leading ++ suffix

/-- What stands in front of a node: an anchor, and the name of a tag. -/
structure Properties where
  anchor? : Option String := none
  name? : Option String := none

/-- The properties in front, in either order, and the tokens behind them. -/
def properties (handles : Handles) : List Token → Except Fault (Properties × List Token)
  | .anchor a :: .tag handle? suffix :: ts => do
    let name ← wellFormed (fullName? handles handle? suffix)
    return (⟨some a, some name⟩, ts)
  | .tag handle? suffix :: .anchor a :: ts => do
    let name ← wellFormed (fullName? handles handle? suffix)
    return (⟨some a, some name⟩, ts)
  | .anchor a :: ts => .ok (⟨some a, none⟩, ts)
  | .tag handle? suffix :: ts =>
    match fullName? handles handle? suffix with
    | some name => .ok (⟨none, some name⟩, ts)
    | none => .error (stuck ts)
  | ts => .ok ({}, ts)

namespace Properties

/-- Whether there are none. -/
def isEmpty (p : Properties) : Bool := p.anchor?.isNone && p.name?.isNone

/-- The tag of a scalar.  An exclamation mark alone makes any scalar count as plain. -/
def scalarTag (p : Properties) (isPlain : Bool) (s : String) : Tag :=
  match p.name? with
  | none => if isPlain then .ofForm s else .text
  | some name => if name == "!" then .ofForm s else .ofName name

/-- The tag of a list or a mapping that has a given tag by itself. -/
def tagOr (p : Properties) (tag : Tag) : Tag :=
  match p.name? with
  | none => tag
  | some name => if name == "!" then tag else .ofName name

end Properties

/-! ### Tokens that are left -/

/-- The tokens that are left, what handles stand for, and the nodes that have anchors.  A node that
is not complete yet has its anchor already. -/
structure Feed where
  tokens : List Token
  handles : Handles := standardHandles
  anchors : List (String × Option Shape) := []

namespace Feed

/-- The feed with other tokens. -/
def withTokens (f : Feed) (ts : List Token) : Feed := { f with tokens := ts }

/-- The node with an anchor; an empty list for one that is not complete yet. -/
def named? (f : Feed) (anchor : String) : Option Shape :=
  (lookupEntry anchor f.anchors).map fun shape? => shape?.getD (.list .list [])

/-- The feed in which an anchor belongs to a node that begins here.  No anchor is given twice. -/
def reserve (f : Feed) : Option String → Except Fault Feed
  | none => .ok f
  | some a =>
    match lookupEntry a f.anchors with
    | some _ => .error (stuck f.tokens)
    | none => .ok { f with anchors := (a, none) :: f.anchors }

/-- The feed in which the node with an anchor is complete. -/
def complete (f : Feed) (anchor? : Option String) (shape : Shape) : Feed :=
  match anchor? with
  | none => f
  | some a => { f with anchors := (a, some shape) :: f.anchors }

end Feed

/-! ### Entries -/

/-- A node, or a blank one if a mark is in front that ends it. -/
def orBlank (parse : Feed → Except Fault (Shape × Feed)) (marks : List Token) (f : Feed) :
    Except Fault (Shape × Feed) :=
  match f.tokens with
  | [] => .error .malformed
  | t :: _ => if marks.contains t then .ok (.blank, f) else parse f

/-- The value of an entry whose key is read; without a colon it is blank. -/
def valueAfter (parse : Feed → Except Fault (Shape × Feed)) (marks : List Token) (f : Feed) :
    Except Fault (Shape × Feed) :=
  match f.tokens with
  | .value :: ts => orBlank parse marks (f.withTokens ts)
  | _ => .ok (.blank, f)

/-- The key and the value of an entry. -/
def entry (parse : Feed → Except Fault (Shape × Feed)) (marks : List Token) (f : Feed) :
    Except Fault ((Shape × Shape) × Feed) := do
  let (k, f) ← orBlank parse (.value :: marks) f
  let (v, f) ← valueAfter parse marks f
  return ((k, v), f)

/-- The marks that end a key or a value of a mapping without brackets. -/
def blockMarks : List Token := [.key, .value, .blockEnd]

/-- The marks that end an item or a value inside brackets. -/
def flowMarks (close : Token) : List Token := [.flowEntry, close]

/-! ### Nodes out of tokens -/

mutual
/-- The node in front.  The value of an entry may be a list whose hyphens are not indented. -/
def node : (fuel : Nat) → (asValue : Bool) → Feed → Except Fault (Shape × Feed)
  | 0, _, _ => .error .malformed
  | fuel + 1, asValue, f =>
    match f.tokens with
    | .alias a :: ts => do
      let shape ← wellFormed (f.named? a)
      return (shape, f.withTokens ts)
    | ts => do
      let (p, ts) ← properties f.handles ts
      let f ← (f.withTokens ts).reserve p.anchor?
      let (shape, f) ← content fuel asValue p f
      return (shape, f.complete p.anchor? shape)

/-- The node in front, behind its properties.  Nothing at all is a scalar if there are
properties. -/
def content : (fuel : Nat) → (asValue : Bool) → Properties → Feed → Except Fault (Shape × Feed)
  | 0, _, _, _ => .error .malformed
  | fuel + 1, asValue, p, f =>
    match f.tokens with
    | .plain s :: ts => .ok (.scalar (p.scalarTag true s) s, f.withTokens ts)
    | .quoted s :: ts => .ok (.scalar (p.scalarTag false s) s, f.withTokens ts)
    | .flowSequence :: ts => do
      let (items, f) ← flowItems fuel (f.withTokens ts)
      return (.list (p.tagOr .list) items, f)
    | .flowMapping :: ts => do
      let (entries, f) ← flowEntries fuel (f.withTokens ts)
      return (.mapping (p.tagOr .mapping) entries, f)
    | .blockSequence :: ts => do
      let (items, f) ← blockItems fuel [.blockEntry, .blockEnd] (f.withTokens ts)
      match f.tokens with
      | .blockEnd :: ts => return (.list (p.tagOr .list) items, f.withTokens ts)
      | ts => .error (stuck ts)
    | .blockMapping :: ts => do
      let (entries, f) ← blockEntries fuel (f.withTokens ts)
      return (.mapping (p.tagOr .mapping) entries, f)
    | .blockEntry :: _ =>
      if asValue then do
        let (items, f) ← blockItems fuel (.blockEntry :: blockMarks) f
        return (.list (p.tagOr .list) items, f)
      else if p.isEmpty then .error .malformed
      else .ok (.scalar (p.scalarTag true "") "", f)
    | .overflow :: _ => .error .overflow
    | _ => if p.isEmpty then .error .malformed else .ok (.scalar (p.scalarTag true "") "", f)

/-- The items of a list without brackets, each behind a hyphen. -/
def blockItems : (fuel : Nat) → (marks : List Token) → Feed → Except Fault (List Shape × Feed)
  | 0, _, _ => .error .malformed
  | fuel + 1, marks, f =>
    match f.tokens with
    | .blockEntry :: ts => do
      let (item, f) ← orBlank (node fuel false) marks (f.withTokens ts)
      let (items, f) ← blockItems fuel marks f
      return (item :: items, f)
    | _ => .ok ([], f)

/-- The entries of a mapping without brackets, and its end. -/
def blockEntries : (fuel : Nat) → Feed → Except Fault (List (Shape × Shape) × Feed)
  | 0, _ => .error .malformed
  | fuel + 1, f =>
    match f.tokens with
    | .blockEnd :: ts => .ok ([], f.withTokens ts)
    | .key :: ts => do
      let (e, f) ← entry (node fuel true) blockMarks (f.withTokens ts)
      let (es, f) ← blockEntries fuel f
      return (e :: es, f)
    | ts => .error (stuck ts)

/-- The items of a list in brackets, and its end.  An item may be a single entry, which counts as a
mapping. -/
def flowItems : (fuel : Nat) → Feed → Except Fault (List Shape × Feed)
  | 0, _ => .error .malformed
  | fuel + 1, f =>
    match f.tokens with
    | .flowSequenceEnd :: ts => .ok ([], f.withTokens ts)
    | _ => do
      let (item, f) ← match f.tokens with
        | .key :: ts => do
          let (e, f) ← entry (node fuel false) (flowMarks .flowSequenceEnd) (f.withTokens ts)
          pure (Shape.mapping .mapping [e], f)
        | _ => node fuel false f
      match f.tokens with
      | .flowSequenceEnd :: ts => return ([item], f.withTokens ts)
      | .flowEntry :: ts => do
        let (items, f) ← flowItems fuel (f.withTokens ts)
        return (item :: items, f)
      | ts => .error (stuck ts)

/-- The entries of a mapping in braces, and its end.  A key may stand alone. -/
def flowEntries : (fuel : Nat) → Feed → Except Fault (List (Shape × Shape) × Feed)
  | 0, _ => .error .malformed
  | fuel + 1, f =>
    match f.tokens with
    | .flowMappingEnd :: ts => .ok ([], f.withTokens ts)
    | _ => do
      let (e, f) ← match f.tokens with
        | .key :: ts => entry (node fuel false) (flowMarks .flowMappingEnd) (f.withTokens ts)
        | _ => do
          let (k, f) ← node fuel false f
          pure ((k, Shape.blank), f)
      match f.tokens with
      | .flowMappingEnd :: ts => return ([e], f.withTokens ts)
      | .flowEntry :: ts => do
        let (es, f) ← flowEntries fuel (f.withTokens ts)
        return (e :: es, f)
      | ts => .error (stuck ts)
end

/-! ### Documents -/

/-- The directives in front, and the tokens behind them. -/
def directives : List Token → List Directive × List Token
  | .directive d :: ts =>
    let (ds, ts) := directives ts
    (d :: ds, ts)
  | ts => ([], ts)

/-- What handles stand for after directives.  No handle is given twice. -/
def handlesOf : List Directive → Option Handles
  | [] => some standardHandles
  | .handle handle leading :: ds => do
    let others ← handlesOf ds
    let again := ds.any fun d => match d with
      | .handle other _ => other == handle
      | _ => false
    if again then none else some ((handle, leading) :: others)
  | _ :: ds => handlesOf ds

/-- Whether the directives name at most one version, and only a first one. -/
def versionsFit (ds : List Directive) : Bool :=
  let majors := ds.filterMap fun d => match d with
    | .version major => some major
    | _ => none
  majors.length ≤ 1 && majors.all fun major => major == 1

/-- What handles stand for in a document behind directives, if the directives are in order. -/
def handlesAfter (ds : List Directive) : Except Fault Handles :=
  if versionsFit ds then wellFormed (handlesOf ds) else .error .malformed

/-- The node behind the start of a document; nothing, a directive or a document marker in front
leaves it blank. -/
def body (parse : Feed → Except Fault (Shape × Feed)) (f : Feed) : Except Fault (Shape × Feed) :=
  match f.tokens with
  | [] => .ok (.blank, f)
  | .directive _ :: _ => .ok (.blank, f)
  | _ => orBlank parse [.documentStart, .documentEnd] f

/-- The end of a text behind its only document: markers of its end, and nothing else. -/
def ending (ts : List Token) : Except Fault Unit :=
  match directives (ts.dropWhile fun t => t == .documentEnd) with
  | ([], []) => .ok ()
  | (ds, ts) => do
    let _ ← handlesAfter ds
    .error (stuck ts)

/-- The node of a text's only document; a text without one is blank. -/
def document (ts : List Token) : Except Fault Shape := do
  let parse := node (4 * ts.length + 4) false
  let (root, f) ← match directives ts with
    | ([], []) => pure (Shape.blank, { tokens := [] })
    | (ds, .documentStart :: ts) => do
      let handles ← handlesAfter ds
      body parse { tokens := ts, handles := handles }
    | ([], ts) => parse { tokens := ts }
    | (ds, ts) => do
      let _ ← handlesAfter ds
      .error (stuck ts)
  ending f.tokens
  return root

end ForumMarkup.Yaml
