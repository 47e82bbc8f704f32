import ForumMarkup.Document.Blanks
import ForumMarkup.Pass.State
import ForumMarkup.Text.Indent
/-
**Transcoding a tree.**

A tree becomes markup from below: what a node holds is transcoded first, from left to right, and the
kind of the node says how the result is put together with the properties of the node.  Blanks after
a node follow its markup.  The text of quotes, lists, list items and footnotes is trimmed.

Main definitions:

* `ForumMarkup.ListType` — the types of lists;
* `ForumMarkup.codeBlock`, `ForumMarkup.formatItem`, `ForumMarkup.formatList` — the markup of blocks
  that are put together from properties;
* `ForumMarkup.visit` — the markup of a node without the blanks after it;
* `ForumMarkup.transcode` — the markup of a node;
* `ForumMarkup.document` — the markup of a whole document: its root, and the list of its footnotes.
-/

set_option autoImplicit false

namespace ForumMarkup

/-! ### Lists -/

/-- The types of lists. -/
inductive ListType
  | ordered
  | unordered
  | descriptive
deriving DecidableEq, Repr

/-- The list type that a value names. -/
def ListType.ofValue? : Value → Option ListType
  | .text s =>
    if s == "ordered" then some .ordered
    else if s == "unordered" then some .unordered
    else if s == "descriptive" then some .descriptive
    else none
  | _ => none

/-- The type that the properties of a list name. -/
def listTypeOf (properties : List (String × Property)) : Except Abort ListType :=
  let type := (Node.valueIn? "type" properties).getD .null
  match ListType.ofValue? type with
  | some t => .ok t
  | none => .error (.refusal (.list type) type)

/-- The markup of a list around its items. -/
def formatList (env : Environment) (type : ListType) (items : String) : String :=
  let inner := asBlock (env.trim items)
  if type = .ordered then Tag.list.wrapValue inner "1" else Tag.list.wrap inner

/-- The markup of an item: a bullet, the term in a descriptive list, and the contents. -/
def formatItem (env : Environment) (term contents : String) : String :=
  bullet ++ term ++ env.trim contents ++ "\n"

/-- The term of an item in a descriptive list. -/
def formatTerm (tag : String) : String :=
  Tag.italic.wrap tag ++ ": "

/-! ### Blocks of code -/

/-- A value as the text of a code block, closed by a line feed. -/
def codeText (v : Value) : Except Misfit String :=
  match v.asText? with
  | some s => .ok (if s.isEmpty || s.toList.getLast? == some '\n' then s else s ++ "\n")
  | none => .error (if v.truthy then .notLines else .notText)

/-- The markup of a code block.  Its text is there before its attributes are. -/
def codeBlock (v : Value) (attributes : Except Misfit (List (String × String))) :
    Except Misfit String := do
  let text ← codeText v
  return asBlock (wrapWith Tag.code.name ("\n" ++ text) (← attributes))

/-- The value of a code block without the indentation that its lines share. -/
def dedentValue (v : Value) : Except Misfit Value :=
  match v.asText? with
  | some s => .ok (.text (Text.dedent s))
  | none => .error .notText

/-- The attributes of a block of source code. -/
def languageAttributes (o : Options) (properties : List (String × Property)) :
    Except Misfit (List (String × String)) :=
  match Node.valueIn? "language" properties with
  | some v => if v.truthy && o.codeLanguage then do return [("lang", ← v.display)] else .ok []
  | none => .ok []

/-! ### Properties -/

/-- A property as text, with a text for its absence. -/
def shownIn (name default : String) (properties : List (String × Property)) :
    Except Misfit String :=
  match Node.valueIn? name properties with
  | some v => v.display
  | none => .ok default

/-- A property that is absent unless it is given as a value that counts. -/
def givenIn (name : String) (properties : List (String × Property)) : Option Value :=
  (Node.valueIn? name properties).filter Value.truthy

/-- The markup of a plain value in the place of a passage: text stands for itself, an empty
collection and null for nothing. -/
def passageText : Value → Except Misfit String
  | .null => .ok ""
  | .text s => .ok s
  | .illFormed t => .ok t.image
  | .list [] => .ok ""
  | .object [] => .ok ""
  | .list _ => .error .notNode
  | .object _ => .error .notNode
  | _ => .error .notPassage

/-- The level at which a headline is written: integers count from the least level of the document,
and a headline without a level is on level one. -/
def headlineLevel (env : Environment) (properties : List (String × Property)) : PassM Value :=
  match (Node.valueIn? "level" properties).getD (.int 1) with
  | .int n => do
    let scope ← env.scope
    return .int (scope.relativeLevel n)
  | v => return v

/-- The line of a headline. -/
def headlineText (title : String) (level : Value) : PassM String :=
  match formatHeadline title level with
  | .ok line => return line
  | .error u => throw (.refusal u level)

/-- The scheme, the path and the raw target of a link. -/
structure LinkParts where
  scheme : String
  path : String
  target : String
  /-- Whether a surrogate stands alone in the target, so that it has no bytes. -/
  broken : Bool
deriving DecidableEq, Repr

/-- Whether a property is a text in which a surrogate stands alone. -/
def isBrokenIn (name : String) (properties : List (String × Property)) : Bool :=
  match Node.valueIn? name properties with
  | some (.illFormed _) => true
  | _ => false

/-- The parts of a link.  A missing target is put together from the other two. -/
def linkParts (properties : List (String × Property)) : Except Misfit LinkParts := do
  let scheme ← shownIn "type" "" properties
  let path ← shownIn "path" "" properties
  match givenIn "raw_link" properties with
  | some v =>
    return ⟨scheme, path, ← v.display, isBrokenIn "raw_link" properties⟩
  | none =>
    return ⟨scheme, path, scheme ++ ":" ++ path,
      isBrokenIn "type" properties || isBrokenIn "path" properties⟩

/-- The URL of a link.  The form of an anchor is made from the bytes of its target. -/
def LinkParts.url (p : LinkParts) : Except Abort String :=
  if p.broken && isAnchor p.target then .error (.misfit .illFormed)
  else (resolveUrl p.scheme p.path p.target).mapError .unsupported

/-- The markup of a link with a description. -/
def linkMarkup (p : LinkParts) (description : String) : PassM String := do
  let url ← PassM.ofExcept p.url
  PassM.note (.resolved p.scheme p.target url)
  return formatLink url description

/-- Whether a footnote reference carries its definition itself. -/
def isInlineFootnote (properties : List (String × Property)) (children : List Node) : Bool :=
  (match Node.valueIn? "type" properties with
    | some (.text s) => s == "inline"
    | _ => false) || !children.isEmpty

/-- The mark of a footnote reference. -/
def referenceMarkup (env : Environment) (properties : List (String × Property))
    (children : List Node) : PassM String := do
  if isInlineFootnote properties children then throw (.unsupported .inlineFootnote)
  -- the table is asked for before the label is shown
  let _ ← env.scope
  let label ← PassM.ofMisfit (shownIn "label" "None" properties)
  let number ← footnoteNumber env label
  return formatReference (.int number)

/-- A fragment and the blanks after its node. -/
def withBlanks (n : Node) (f : Fragment) : PassM Fragment := do
  let count ← PassM.ofMisfit n.postBlank
  if count = 0 then return f
  let space ← PassM.ofMisfit (blanks n.kind count)
  let s ← PassM.ofMisfit f.text?
  return .text (s ++ space)

/-- The text of a list of fragments.  All of them are there before one that is no text is
refused. -/
def joined (fs : List Fragment) : PassM String :=
  PassM.ofMisfit (Fragment.join fs)

/-! ### The fold -/

mutual
/-- The markup of a node without the blanks after it. -/
def visit (env : Environment) : Node → PassM Fragment
  | .mk kind properties children =>
    match kind with
    | .orgData | .section | .paragraph => do
      return .text (← fragments env children >>= joined)
    | .plainText => do return .text (← PassM.ofMisfit (shownIn "value" "" properties))
    | .bold => do return .text (Tag.bold.wrap (← fragments env children >>= joined))
    | .italic => do return .text (Tag.italic.wrap (← fragments env children >>= joined))
    | .underline => do return .text (Tag.underline.wrap (← fragments env children >>= joined))
    | .strikeThrough => do return .text (Tag.strike.wrap (← fragments env children >>= joined))
    | .code | .verbatim => do
      let s ← PassM.ofMisfit (shownIn "value" "" properties)
      return .text (Tag.font.wrapValue s "monospace")
    | .entity => return .ofValue ((Node.valueIn? "utf8" properties).getD (.text ""))
    | .lineBreak => return .text (Tag.lineBreak.wrap env.options.lineBreak ++ "\n")
    | .horizontalRule => return .text (Tag.rule.wrap "")
    | .exampleBlock => do
      return .text (← PassM.ofMisfit
        (codeBlock ((Node.valueIn? "value" properties).getD (.text "")) (.ok [])))
    | .fixedWidth => do
      let v ← PassM.ofMisfit (dedentValue ((Node.valueIn? "value" properties).getD (.text "")))
      return .text (← PassM.ofMisfit (codeBlock v (.ok [])))
    | .srcBlock => do
      return .text (← PassM.ofMisfit
        (codeBlock ((Node.valueIn? "value" properties).getD (.text ""))
          (languageAttributes env.options properties)))
    | .quoteBlock => do
      let s ← fragments env children >>= joined
      return .text (Tag.quote.wrap (asBlock (env.trim s)))
    | .headline => do
      if (givenIn "footnote_section_p" properties).isSome then return .text ""
      let level ← headlineLevel env properties
      let title ← passage env "title" properties
      let line ← headlineText title level
      let below ← fragments env children >>= joined
      return .text (line ++ below)
    | .plainList => do
      let type ← PassM.ofExcept (listTypeOf properties)
      let s ← items env type children >>= joined
      return .text (formatList env type s)
    | .item => do
      let s ← fragments env children >>= joined
      return .text (formatItem env "" s)
    | .table => do return .text (Tag.table.wrap (← fragments env children >>= joined))
    | .tableRow => do
      let s ← fragments env children >>= joined
      return .text (if s.isEmpty then "" else Tag.row.wrap s)
    | .tableCell => do return .text (Tag.cell.wrap (← fragments env children >>= joined))
    | .link => do
      let parts ← PassM.ofMisfit (linkParts properties)
      let s ← fragments env children >>= joined
      return .text (← linkMarkup parts s)
    | .footnoteReference => do return .text (← referenceMarkup env properties children)
    | .footnoteDefinition => return .text ""
    | kind => throw (.unsupported (.node kind))
  termination_by structural n => n
/-- The fragments of a list of nodes, the blanks after each included. -/
def fragments (env : Environment) : List Node → PassM (List Fragment)
  | [] => return []
  | n :: ns => do
    let f ← visit env n
    let f ← withBlanks n f
    return f :: (← fragments env ns)
  termination_by structural ns => ns
/-- The markup of the passage under a name: of its nodes, or of the plain value in their place. -/
def passage (env : Environment) (name : String) : List (String × Property) → PassM String
  | [] => return ""
  | (k, .nodes ns) :: ps => if k == name then fragments env ns >>= joined else passage env name ps
  | (k, .value v) :: ps =>
    if k == name then PassM.ofMisfit (passageText v) else passage env name ps
  termination_by structural ps => ps
/-- The fragments of the children of a list.  Items take the type of the list, other children are
transcoded as they are. -/
def items (env : Environment) (type : ListType) : List Node → PassM (List Fragment)
  | [] => return []
  | .mk kind properties children :: ns => do
    let n := Node.mk kind properties children
    let f ←
      if kind = .item then do
        let term ←
          if type = .descriptive then formatTerm <$> passage env "tag" properties else pure ""
        let s ← fragments env children >>= joined
        pure (Fragment.text (formatItem env term s))
      else visit env (.mk kind properties children)
    let f ← withBlanks n f
    return f :: (← items env type ns)
  termination_by structural ns => ns
end

/-- The markup of a list of nodes. -/
def contents (env : Environment) (ns : List Node) : PassM String :=
  fragments env ns >>= joined

/-- The markup of a node, with the blanks after it. -/
def transcode (env : Environment) (n : Node) : PassM Fragment := do
  withBlanks n (← visit env n)

/-! ### A whole document -/

/-- The entry of the footnote table at a place, as the pass stands. -/
def footnoteAt (env : Environment) (place : Nat) : PassM (Option (Nat × Node)) := do
  let scope ← env.scope
  let progress ← get
  let table : FootnoteTable := { definitions := scope.definitions, numbers := progress.numbers }
  return table.at? place

/-- The text of a definition in the list of footnotes. -/
def definitionText (env : Environment) (definition : Node) : PassM String := do
  return env.trim (← contents env definition.children)

/-- The list of footnotes after the body.  Definitions that are referenced from other definitions
join it while it is written; there are no more of them than definitions. -/
def footnoteSection (env : Environment) : PassM String := do
  let scope ← env.scope
  noteSection (footnoteAt env) (definitionText env) env.options.footnoteTitle
    scope.definitions.length

/-- The markup of a document: of its root, and of its footnotes. -/
def document (env : Environment) (root : Node) : PassM String := do
  PassM.note (.began root.kind)
  let body ← transcode env root
  let notes ← footnoteSection env
  PassM.note (.listed (← get).numbers.length)
  let body ← PassM.ofMisfit body.text?
  return body ++ notes

end ForumMarkup
