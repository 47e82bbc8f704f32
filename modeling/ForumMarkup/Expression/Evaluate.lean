import ForumMarkup.Document.Builder
import ForumMarkup.Expression.Draft
import ForumMarkup.Expression.Signature
/-
**Constructions.**

A tree can be described by the calls that build it: an object with the name of a constructor under
`fn` stands for the node that the constructor gives, its arguments under `args` and `kw`.  Arguments
are evaluated before the call, from left to right.

Main definitions:

* `ForumMarkup.Constructor` — the constructors, with their names and signatures;
* `ForumMarkup.Constructor.apply` — the draft that a constructor gives for arguments that fit it;
* `ForumMarkup.evaluate` — the draft that a value describes;
* `ForumMarkup.construct` — the tree that a value describes.
-/

set_option autoImplicit false

namespace ForumMarkup

/-! ### Constructors -/

/-- The constructors. -/
inductive Constructor
  /-- A node of any kind. -/
  | anyNode
  | text
  /-- A node that has children and nothing else. -/
  | branch (kind : Kind)
  /-- A node that has a value and nothing else. -/
  | valued (kind : Kind)
  /-- A node that has nothing. -/
  | bare (kind : Kind)
  | headline
  | plainList
  | item
  | link
  | footnoteReference
  | footnoteDefinition
  | tableRow
  | srcBlock
  | entity
deriving DecidableEq, Repr

namespace Constructor

/-- The constructors by name. -/
def table : List (String × Constructor) :=
  [("node", .anyNode), ("text", .text), ("document", .branch .orgData),
    ("section", .branch .section), ("paragraph", .branch .paragraph), ("bold", .branch .bold),
    ("italic", .branch .italic), ("underline", .branch .underline),
    ("strike_through", .branch .strikeThrough), ("code", .valued .code),
    ("verbatim", .valued .verbatim), ("headline", .headline), ("plain_list", .plainList),
    ("item", .item), ("link", .link), ("footnote_reference", .footnoteReference),
    ("footnote_definition", .footnoteDefinition), ("table", .branch .table),
    ("table_row", .tableRow), ("table_cell", .branch .tableCell), ("src_block", .srcBlock),
    ("example_block", .valued .exampleBlock), ("fixed_width", .valued .fixedWidth),
    ("quote_block", .branch .quoteBlock), ("entity", .entity), ("line_break", .bare .lineBreak),
    ("horizontal_rule", .bare .horizontalRule)]

/-- A draft of null. -/
def nothing : Draft := .value .null

/-- The arguments that a constructor takes. -/
def signature : Constructor → Signature Draft
  | .anyNode => { leading := [⟨"kind", none⟩], collects := true, collectsNamed := true }
  | .text => { leading := [⟨"value", none⟩, ⟨"post_blank", some (.value (.int 0))⟩] }
  | .branch _ => { collects := true }
  | .valued _ => { leading := [⟨"value", none⟩] }
  | .bare _ => {}
  | .headline =>
    { leading := [⟨"title", none⟩], collects := true
      keyed := [⟨"level", some (.value (.int 1))⟩,
        ⟨"footnote_section", some (.value (.bool false))⟩] }
  | .plainList => { leading := [⟨"list_type", none⟩], collects := true }
  | .item => { collects := true, keyed := [⟨"tag", some nothing⟩] }
  | .link => { leading := [⟨"raw_link", none⟩], collects := true }
  | .footnoteReference =>
    { leading := [⟨"label", none⟩, ⟨"footnote_type", some (.value (.text "standard"))⟩]
      collects := true }
  | .footnoteDefinition => { leading := [⟨"label", none⟩], collects := true }
  | .tableRow => { collects := true, keyed := [⟨"rule", some (.value (.bool false))⟩] }
  | .srcBlock => { leading := [⟨"value", none⟩, ⟨"language", some nothing⟩] }
  | .entity => { leading := [⟨"name", none⟩, ⟨"utf8", none⟩] }

/-- A passage: a text, or the items of a list; the items of an object are its names. -/
def passageOf : Draft → Except BuildFault Draft
  | .value (.text s) => .ok (.value (.text s))
  | .value (.illFormed t) => .ok (.value (.illFormed t))
  | .list items => .ok (.list items)
  | .value (.list vs) => .ok (.list (vs.map .value))
  | .value (.object entries) => .ok (.list (entries.map fun e => .value (.text e.1)))
  | _ => .error .notPassage

/-- A property that is left out when it does not count as given. -/
def whenGiven (name : String) (d : Draft) (stored : Draft) : List (String × Draft) :=
  if d.truthy then [(name, stored)] else []

/-- The draft that a constructor gives for arguments that fit it. -/
def apply (c : Constructor) (b : Bound Draft) : Except BuildFault Draft :=
  match c, b.values with
  | .anyNode, [kind] =>
    match kind with
    | .value (.text name) =>
      match Kind.ofName? name with
      | some k => .ok (.node k b.others b.rest)
      | none => .error .unknownKind
    | _ => .error .unknownKind
  | .text, [v, blank] =>
    .ok (.node .plainText (("value", v) :: whenGiven "post_blank" blank blank) [])
  | .branch kind, _ => .ok (.node kind [] b.rest)
  | .valued kind, [v] => .ok (.node kind [("value", v)] [])
  | .bare kind, _ => .ok (.node kind [] [])
  | .headline, [title, level, footnotes] => do
    let title ← passageOf title
    return .node .headline ([("title", title), ("level", level)] ++
      whenGiven "footnote_section_p" footnotes (.value (.bool true))) b.rest
  | .plainList, [type] => .ok (.node .plainList [("type", type)] b.rest)
  | .item, [tag] =>
    match tag with
    | .value .null => .ok (.node .item [] b.rest)
    | tag => do return .node .item [("tag", ← passageOf tag)] b.rest
  | .link, [raw] =>
    match raw.points? with
    | some raw => .ok (.node .link ((linkProperties raw).map fun e => (e.1, .value e.2)) b.rest)
    | none => .error .notTarget
  | .footnoteReference, [label, type] =>
    .ok (.node .footnoteReference [("label", label), ("type", type)] b.rest)
  | .footnoteDefinition, [label] => .ok (.node .footnoteDefinition [("label", label)] b.rest)
  | .tableRow, [rule] =>
    let type := if rule.truthy then "rule" else "standard"
    .ok (.node .tableRow [("type", .value (.text type))] b.rest)
  | .srcBlock, [v, language] => .ok (.node .srcBlock [("value", v), ("language", language)] [])
  | .entity, [name, utf8] => .ok (.node .entity [("name", name), ("utf8", utf8)] [])
  | _, _ => .error .arguments

/-- The draft that a call gives. -/
def call (name : String) (placed : List Draft) (named : List (String × Draft)) :
    Except BuildFault Draft :=
  match lookupEntry name table with
  | none => .error (.unknownConstructor name)
  | some c =>
    match c.signature.bind? placed named with
    | none => .error .arguments
    | some b => c.apply b

end Constructor

/-! ### Evaluation -/

/-- The name of the constructor that an object calls. -/
def calledName? (entries : List (String × Value)) : Option String :=
  match lookupEntry "fn" entries with
  | some (.text name) => some name
  | _ => none

mutual
/-- The draft that a value describes: a call, a list of drafts, or the value itself. -/
def evaluate : Value → Except BuildFault Draft
  | .list items => do return .list (← evaluateItems items)
  | .object entries =>
    match calledName? entries with
    | none => .ok (.value (.object entries))
    | some name => do
      let placed ← evaluatePlaced entries
      let named ← evaluateNamed entries
      Constructor.call name placed named
  | v => .ok (.value v)
/-- The drafts that a list of values describes. -/
def evaluateItems : List Value → Except BuildFault (List Draft)
  | [] => .ok []
  | v :: vs => do
    let d ← evaluate v
    return d :: (← evaluateItems vs)
/-- The arguments by place among the entries of a call. -/
def evaluatePlaced : List (String × Value) → Except BuildFault (List Draft)
  | [] => .ok []
  | (name, v) :: rest =>
    if name == "args" then
      match v with
      | .list items => evaluateItems items
      | _ => .ok []
    else evaluatePlaced rest
/-- The arguments by name among the entries of a call. -/
def evaluateNamed : List (String × Value) → Except BuildFault (List (String × Draft))
  | [] => .ok []
  | (name, v) :: rest =>
    if name == "kw" then
      match v with
      | .object entries => evaluateEntries entries
      | _ => .ok []
    else evaluateNamed rest
/-- The drafts that the entries of an object describe. -/
def evaluateEntries : List (String × Value) → Except BuildFault (List (String × Draft))
  | [] => .ok []
  | (name, v) :: rest => do
    let d ← evaluate v
    return (name, d) :: (← evaluateEntries rest)
end

/-- The tree that a value describes. -/
def construct (v : Value) : Except BuildFault Node := do
  Draft.settle (← evaluate v)

end ForumMarkup
