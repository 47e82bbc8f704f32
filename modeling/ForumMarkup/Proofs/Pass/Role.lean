import ForumMarkup.Pass.Transcode
import ForumMarkup.Proofs.Value.Points
/-
**The ways in which kinds are transcoded.**

Of the forty-eight kinds, many are transcoded alike: they only differ in what they put around their
contents, or in how they show a property.  There are eight ways in all.

Main definitions:

* `ForumMarkup.Role`, `ForumMarkup.Kind.role`, `ForumMarkup.Kind.passage?` — the ways, the way of a
  kind, and the passage that it reads;
* `ForumMarkup.textIn`, `ForumMarkup.isShowableIn` — a property as text, and whether it can be
  shown;
* `ForumMarkup.dress` — what a container puts around its contents;
* `ForumMarkup.leafFragment`, `ForumMarkup.codeOf`, `ForumMarkup.codeAttributes` — what the kinds
  without contents show;
* `ForumMarkup.HoldsText` — the text that a block of code holds;
* `ForumMarkup.partsIn` — the parts of a link;
* `ForumMarkup.leafAbort?`, `ForumMarkup.languageAbort?`, `ForumMarkup.partsAbort?` — how what is
  shown ends a pass;
* `ForumMarkup.entry`, `ForumMarkup.entries` — the fragments of a list of nodes, as items of a
  descriptive list or as they are.

Main results:

* `ForumMarkup.codeOf_eq_ok` — a block of code shows the text that it holds;
* `ForumMarkup.visit_container` and its seven siblings — the markup of a node by its role;
* `ForumMarkup.fragments_eq`, `ForumMarkup.items_eq` — all lists of nodes are transcoded alike.
-/

set_option autoImplicit false

namespace ForumMarkup

/-! ### Roles -/

/-- The ways in which a node is transcoded. -/
inductive Role
  /-- The contents, with something around them. -/
  | container
  /-- A text that is shown as it is. -/
  | leaf
  /-- A block of code. -/
  | codeBlock
  | headline
  | list
  | link
  | reference
  /-- Nothing: the markup has no counterpart. -/
  | refused
deriving DecidableEq, Repr

/-- The way in which a kind is transcoded. -/
def Kind.role : Kind → Role
  | .orgData | .section | .paragraph | .bold | .italic | .underline | .strikeThrough
  | .quoteBlock | .item | .table | .tableRow | .tableCell => .container
  | .plainText | .code | .verbatim | .entity | .lineBreak | .horizontalRule
  | .footnoteDefinition => .leaf
  | .exampleBlock | .fixedWidth | .srcBlock => .codeBlock
  | .headline => .headline
  | .plainList => .list
  | .link => .link
  | .footnoteReference => .reference
  | _ => .refused

theorem Kind.eq_headline {k : Kind} (h : k.role = .headline) : k = .headline := by
  cases k <;> first | rfl | cases h

theorem Kind.eq_plainList {k : Kind} (h : k.role = .list) : k = .plainList := by
  cases k <;> first | rfl | cases h

theorem Kind.eq_link {k : Kind} (h : k.role = .link) : k = .link := by
  cases k <;> first | rfl | cases h

theorem Kind.eq_footnoteReference {k : Kind} (h : k.role = .reference) :
    k = .footnoteReference := by
  cases k <;> first | rfl | cases h

/-- The passage that a kind reads. -/
def Kind.passage? : Kind → Option String
  | .headline => some "title"
  | .item => some "tag"
  | _ => none

/-- Whether a headline is left out. -/
def isSuppressed (properties : List (String × Property)) : Bool :=
  (givenIn "footnote_section_p" properties).isSome

/-- Whether a list is a descriptive one. -/
def isDescriptive (properties : List (String × Property)) : Bool :=
  match listTypeOf properties with
  | .ok .descriptive => true
  | _ => false

/-! ### Properties as text -/

/-- A property as text, were there no limit to the digits of an integer, with a text for its
absence. -/
def textIn (name default : String) (properties : List (String × Property)) : String :=
  match Node.valueIn? name properties with
  | some v => v.shown
  | none => default

/-- Whether a property can be shown. -/
def isShowableIn (name : String) (properties : List (String × Property)) : Bool :=
  (Node.valueIn? name properties).all fun v => v.isShowable

theorem shownIn_eq (name default : String) (ps : List (String × Property)) :
    shownIn name default ps =
      if isShowableIn name ps then .ok (textIn name default ps) else .error .longInteger := by
  unfold shownIn isShowableIn textIn
  cases Node.valueIn? name ps <;> rfl

/-- What counts as absent can be shown. -/
theorem Value.isShowable_of_not_truthy {v : Value} (h : v.truthy = false) :
    v.isShowable = true := by
  cases v with
  | int n =>
      have hzero : n = 0 := by simpa [Value.truthy] using h
      subst hzero
      rfl
  | list vs =>
      have hnil : vs = [] := by simpa [Value.truthy] using h
      subst hnil
      rfl
  | object es =>
      have hnil : es = [] := by simpa [Value.truthy] using h
      subst hnil
      rfl
  | _ => rfl

/-- A property that is given as a value that counts can be shown if the property can. -/
theorem givenIn_isShowable (name : String) (ps : List (String × Property)) :
    ((givenIn name ps).all fun v => v.isShowable) = isShowableIn name ps := by
  unfold givenIn isShowableIn
  cases Node.valueIn? name ps with
  | none => rfl
  | some v =>
      cases htruthy : v.truthy with
      | true => simp [Option.filter, htruthy]
      | false => simp [Option.filter, htruthy, Value.isShowable_of_not_truthy htruthy]

/-! ### Parts of the markup of a node -/

/-- The contents of a container with what it puts around them.  `term` is the term of an item in a
descriptive list. -/
def dress (env : Environment) (kind : Kind) (term s : String) : String :=
  match kind with
  | .bold => Tag.bold.wrap s
  | .italic => Tag.italic.wrap s
  | .underline => Tag.underline.wrap s
  | .strikeThrough => Tag.strike.wrap s
  | .quoteBlock => Tag.quote.wrap (asBlock (env.trim s))
  | .item => formatItem env term s
  | .table => Tag.table.wrap s
  | .tableRow => if s.isEmpty then "" else Tag.row.wrap s
  | .tableCell => Tag.cell.wrap s
  | _ => s

/-- What a leaf shows. -/
def leafFragment (o : Options) (kind : Kind) (properties : List (String × Property)) : Fragment :=
  match kind with
  | .plainText => .text (textIn "value" "" properties)
  | .code | .verbatim => .text (Tag.font.wrapValue (textIn "value" "" properties) "monospace")
  | .entity => .ofValue ((Node.valueIn? "utf8" properties).getD (.text ""))
  | .lineBreak => .text (Tag.lineBreak.wrap o.lineBreak ++ "\n")
  | .horizontalRule => .text (Tag.rule.wrap "")
  | _ => .text ""

/-- The text in a block of code. -/
def codeOf (kind : Kind) (properties : List (String × Property)) : Except Misfit String :=
  let v := (Node.valueIn? "value" properties).getD (.text "")
  match kind with
  | .fixedWidth => dedentValue v >>= codeText
  | _ => codeText v

/-- The attributes of a block of code. -/
def codeAttributes (o : Options) (kind : Kind) (properties : List (String × Property)) :
    List (String × String) :=
  match kind, givenIn "language" properties with
  | .srcBlock, some v => if o.codeLanguage then [("lang", v.shown)] else []
  | _, _ => []

/-- The parts of a link. -/
def partsIn (properties : List (String × Property)) : LinkParts :=
  let scheme := textIn "type" "" properties
  let path := textIn "path" "" properties
  match givenIn "raw_link" properties with
  | some v => ⟨scheme, path, v.shown, isBrokenIn "raw_link" properties⟩
  | none =>
    ⟨scheme, path, scheme ++ ":" ++ path,
      isBrokenIn "type" properties || isBrokenIn "path" properties⟩

/-! ### What is shown -/

/-- How a pass ends at something that is shown, if that cannot be. -/
def showing (isShowable : Bool) : Option Abort :=
  if isShowable then none else some (.misfit .longInteger)

/-- How a leaf ends a pass. -/
def leafAbort? (kind : Kind) (properties : List (String × Property)) : Option Abort :=
  match kind with
  | .plainText | .code | .verbatim => showing (isShowableIn "value" properties)
  | _ => none

/-- How the language of a block of code ends a pass, if languages are written. -/
def languageAbort? (languages : Bool) (kind : Kind) (properties : List (String × Property)) :
    Option Abort :=
  match kind with
  | .srcBlock => showing (!languages || isShowableIn "language" properties)
  | _ => none

/-- Whether the parts of a link can be shown. -/
def partsShowable (properties : List (String × Property)) : Bool :=
  isShowableIn "type" properties && isShowableIn "path" properties &&
    isShowableIn "raw_link" properties

/-- How the parts of a link end a pass. -/
def partsAbort? (properties : List (String × Property)) : Option Abort :=
  showing (partsShowable properties)

/-- A computation that either ends the pass or yields a value, and changes nothing. -/
def PassM.settle {α : Type} (e? : Option Abort) (a : α) : PassM α :=
  match e? with
  | some e => throw e
  | none => pure a

theorem PassM.settle_map {α β : Type} (e? : Option Abort) (a : α) (f : α → β) :
    (do return f (← settle e? a)) = settle e? (f a) := by
  cases e? <;> rfl

theorem ofMisfit_bind {α β : Type} (x : Except Misfit α) (f : α → Except Misfit β) :
    PassM.ofMisfit (x >>= f) = PassM.ofMisfit x >>= fun a => PassM.ofMisfit (f a) := by
  cases x <;> rfl

/-- What is shown, as a computation of a pass. -/
theorem ofMisfit_shown {α : Type} (isShowable : Bool) (a : α) :
    PassM.ofMisfit (if isShowable then .ok a else .error .longInteger) =
      PassM.settle (showing isShowable) a := by
  cases isShowable <;> rfl

theorem ofMisfit_shownIn (name default : String) (ps : List (String × Property)) :
    PassM.ofMisfit (shownIn name default ps) =
      PassM.settle (showing (isShowableIn name ps)) (textIn name default ps) := by
  rw [shownIn_eq, ofMisfit_shown]

theorem ofMisfit_languageAttributes (o : Options) (ps : List (String × Property)) :
    PassM.ofMisfit (languageAttributes o ps) =
      PassM.settle (languageAbort? o.codeLanguage .srcBlock ps)
        (codeAttributes o .srcBlock ps) := by
  unfold languageAttributes languageAbort? codeAttributes givenIn isShowableIn
  cases Node.valueIn? "language" ps with
  | none => cases o.codeLanguage <;> rfl
  | some v =>
      cases htruthy : v.truthy with
      | false =>
          have hshowable := Value.isShowable_of_not_truthy htruthy
          simp [htruthy, hshowable, Option.filter, showing, PassM.settle, PassM.ofMisfit]
      | true =>
          cases o.codeLanguage <;> cases hshowable : v.isShowable <;>
            simp [htruthy, hshowable, Option.filter, showing, PassM.settle, PassM.ofMisfit,
              Value.display, bind, Except.bind, pure, Except.pure]

theorem linkParts_eq (ps : List (String × Property)) :
    linkParts ps = if partsShowable ps then .ok (partsIn ps) else .error .longInteger := by
  rw [partsShowable, ← givenIn_isShowable "raw_link"]
  unfold linkParts partsIn
  rw [shownIn_eq, shownIn_eq]
  cases isShowableIn "type" ps <;> cases isShowableIn "path" ps <;> try rfl
  cases givenIn "raw_link" ps with
  | none => rfl
  | some v =>
      cases hshowable : v.isShowable <;>
        simp [Value.display, hshowable, bind, Except.bind, pure, Except.pure]

theorem partsIn_scheme (ps : List (String × Property)) :
    (partsIn ps).scheme = textIn "type" "" ps := by
  unfold partsIn
  cases givenIn "raw_link" ps <;> rfl

theorem partsIn_path (ps : List (String × Property)) :
    (partsIn ps).path = textIn "path" "" ps := by
  unfold partsIn
  cases givenIn "raw_link" ps <;> rfl

theorem ofMisfit_linkParts (ps : List (String × Property)) :
    PassM.ofMisfit (linkParts ps) = PassM.settle (partsAbort? ps) (partsIn ps) := by
  rw [linkParts_eq, ofMisfit_shown, partsAbort?]

theorem partsIn_of_linkParts {ps : List (String × Property)} {parts : LinkParts}
    (h : linkParts ps = .ok parts) : partsIn ps = parts := by
  rw [linkParts_eq] at h
  split at h
  · exact Except.ok.inj h
  · cases h

/-- The URL of a link is that of its parts. -/
theorem resolveUrl_of_url {parts : LinkParts} {url : String} (h : parts.url = .ok url) :
    resolveUrl parts.scheme parts.path parts.target = .ok url := by
  unfold LinkParts.url at h
  split at h
  · cases h
  · cases hurl : resolveUrl parts.scheme parts.path parts.target with
    | error u =>
        rw [hurl] at h
        cases h
    | ok url' =>
        rw [hurl] at h
        exact congrArg Except.ok (Except.ok.inj h)

/-! ### Blocks of code -/

/-- A text whose last line is ended; an empty text has no line. -/
def closedLines (s : String) : String :=
  if s.isEmpty || s.toList.getLast? == some '\n' then s else s ++ "\n"

/-- The text that a block of code holds; an absent one is empty. -/
def HoldsText (ps : List (String × Property)) (s : String) : Prop :=
  ((Node.valueIn? "value" ps).getD (.text "")).asText? = some s

theorem HoldsText.shown {ps : List (String × Property)} {s : String} (h : HoldsText ps s) :
    textIn "value" "" ps = s := by
  unfold HoldsText at h
  unfold textIn
  cases hv : Node.valueIn? "value" ps with
  | none =>
      rw [hv] at h
      exact Option.some.inj h
  | some v =>
      rw [hv] at h
      exact Value.shown_of_asText? h

theorem codeText_eq_ok {v : Value} {code : String} :
    codeText v = .ok code ↔ ∃ s, v.asText? = some s ∧ code = closedLines s := by
  rw [codeText]
  cases v.asText? with
  | none => simp
  | some s =>
      constructor
      · rintro ⟨⟩
        exact ⟨s, rfl, rfl⟩
      · rintro ⟨s, ⟨⟩, rfl⟩
        rfl

/-- **A block of code shows the text that it holds**, with its last line ended, and there is nothing
to show if it holds no text. -/
theorem codeOf_eq_ok {kind : Kind} {ps : List (String × Property)} {code : String} :
    codeOf kind ps = .ok code ↔ ∃ s, HoldsText ps s ∧
      code = closedLines (if kind = .fixedWidth then Text.dedent s else s) := by
  rw [codeOf.eq_def]
  dsimp only
  split
  · simp only [dedentValue, HoldsText]
    cases ((Node.valueIn? "value" ps).getD (.text "")).asText? with
    | none => simp [bind, Except.bind]
    | some s =>
        have hcode := @codeText_eq_ok (.text (Text.dedent s)) code
        simpa [Value.asText?, bind, Except.bind] using hcode
  · rename_i hkind
    simp only [codeText_eq_ok, if_neg hkind, HoldsText]

/-! ### The markup of a node by its role -/

variable (env : Environment) {kind : Kind} (ps : List (String × Property)) (cs : List Node)

theorem visit_container (h : kind.role = .container) :
    visit env (.mk kind ps cs) = do
      return .text (dress env kind "" (← fragments env cs >>= joined)) := by
  cases kind <;> first | rfl | cases h

theorem visit_leaf (h : kind.role = .leaf) :
    visit env (.mk kind ps cs) =
      PassM.settle (leafAbort? kind ps) (leafFragment env.options kind ps) := by
  cases kind <;> try cases h
  -- Texts, code and verbatim text show their value; the other leaves show nothing that can fail.
  all_goals
    first
    | rfl
    | simp only [visit, ofMisfit_shownIn, PassM.settle_map]
      rfl

/-- The markup of a block of code, once there are its text and its attributes. -/
def codeFragment (code : String) (attributes : List (String × String)) : Fragment :=
  .text (asBlock (wrapWith Tag.code.name ("\n" ++ code) attributes))

theorem ofMisfit_codeBlock (v : Value) (attributes : Except Misfit (List (String × String))) :
    PassM.ofMisfit (codeBlock v attributes) = do
      let code ← PassM.ofMisfit (codeText v)
      return asBlock (wrapWith Tag.code.name ("\n" ++ code) (← PassM.ofMisfit attributes)) := by
  rw [codeBlock, ofMisfit_bind]
  cases attributes <;> rfl

theorem visit_codeBlock (h : kind.role = .codeBlock) :
    visit env (.mk kind ps cs) = PassM.ofMisfit (codeOf kind ps) >>= fun code =>
      PassM.settle (languageAbort? env.options.codeLanguage kind ps)
        (codeFragment code (codeAttributes env.options kind ps)) := by
  cases kind <;> try cases h
  case exampleBlock =>
      rw [visit, ofMisfit_codeBlock]
      simp only [bind_assoc, pure_bind]
      rfl
  case srcBlock =>
      rw [visit, ofMisfit_codeBlock, ofMisfit_languageAttributes]
      simp only [bind_assoc, pure_bind]
      cases languageAbort? env.options.codeLanguage .srcBlock ps <;> rfl
  case fixedWidth =>
      simp only [visit, codeOf, ofMisfit_codeBlock, ofMisfit_bind, bind_assoc]
      rfl

theorem visit_refused (h : kind.role = .refused) :
    visit env (.mk kind ps cs) = throw (.unsupported (.node kind)) := by
  cases kind <;> first | rfl | cases h

theorem visit_headline :
    visit env (.mk .headline ps cs) =
      if isSuppressed ps then pure (.text "") else do
        let level ← headlineLevel env ps
        let title ← passage env "title" ps
        let line ← headlineText title level
        return .text (line ++ (← fragments env cs >>= joined)) := rfl

theorem visit_plainList :
    visit env (.mk .plainList ps cs) = do
      let type ← PassM.ofExcept (listTypeOf ps)
      return .text (formatList env type (← items env type cs >>= joined)) := rfl

theorem visit_link :
    visit env (.mk .link ps cs) = do
      let parts ← PassM.settle (partsAbort? ps) (partsIn ps)
      return .text (← linkMarkup parts (← fragments env cs >>= joined)) := by
  rw [← ofMisfit_linkParts]
  rfl

theorem visit_footnoteReference :
    visit env (.mk .footnoteReference ps cs) = do
      return .text (← referenceMarkup env ps cs) := rfl

/-! ### Lists of nodes -/

/-- The fragment of a node in a list of nodes.  In a descriptive list an item has a term. -/
def entry (descriptive : Bool) : Node → PassM Fragment
  | .mk kind ps cs =>
    if descriptive = true ∧ kind = .item then do
      let tag ← passage env "tag" ps
      return .text (dress env kind (formatTerm tag) (← fragments env cs >>= joined))
    else visit env (.mk kind ps cs)

/-- The fragments of a list of nodes, the blanks after each included. -/
def entries (descriptive : Bool) : List Node → PassM (List Fragment)
  | [] => return []
  | n :: ns => do
    let f ← entry env descriptive n
    let f ← withBlanks n f
    return f :: (← entries descriptive ns)

theorem entry_false (n : Node) : entry env false n = visit env n := by
  obtain ⟨kind, ps, cs⟩ := n
  simp [entry]

theorem fragments_eq (ns : List Node) : fragments env ns = entries env false ns := by
  induction ns with
  | nil => rfl
  | cons n ns ih => rw [fragments, entries, entry_false, ih]

theorem items_eq (type : ListType) (ns : List Node) :
    items env type ns = entries env (type = .descriptive) ns := by
  induction ns with
  | nil => rfl
  | cons n ns ih =>
      obtain ⟨kind, ps, cs⟩ := n
      rw [items, entries, ih, entry]
      -- Outside a descriptive list an item is visited like any other node.
      by_cases hk : kind = .item
      · subst hk
        by_cases ht : type = .descriptive
        · simp [ht, dress]
        · simp [ht, visit]
      · simp [hk]

end ForumMarkup
