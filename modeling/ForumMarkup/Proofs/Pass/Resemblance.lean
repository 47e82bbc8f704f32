import ForumMarkup.Proofs.Pass.Document
import ForumMarkup.Proofs.Pass.SameRun
/-
**Trees of which a pass makes the same.**

A pass does not look at all of a tree.  To show that it makes the same of two trees it is enough to
compare what it does look at: kinds, plain values, the levels of headlines, and the texts of
passages and of children.  The module says once which parts these are, so that later proofs only
compare parts.

Main definitions:

* `ForumMarkup.listText` — the text of a list of nodes;
* `ForumMarkup.Environment.Matches` — computations in two environments number footnotes alike, under
  the same options;
* `ForumMarkup.Resembles` — the parts of a node in one environment run the same as those of another
  node in another environment.

Main results:

* `ForumMarkup.Resembles.entry` — **nodes whose parts run the same run the same**;
* `ForumMarkup.sameRun_cons` — so do lists of them;
* `ForumMarkup.Resembles.document` — and documents, if the same footnotes follow them;
* `ForumMarkup.footnoteSection_sameRun` — definitions whose texts run the same make footnotes that
  do.
-/

set_option autoImplicit false

namespace ForumMarkup

/-! ### The text of a list of nodes -/

/-- The text of a list of nodes, with terms for the items of a descriptive list. -/
def listText (env : Environment) (descriptive : Bool) (ns : List Node) : PassM String :=
  entries env descriptive ns >>= joined

theorem contents_eq_listText (env : Environment) (ns : List Node) :
    contents env ns = listText env false ns := by
  rw [contents, fragments_eq]
  rfl

theorem fragments_bind_joined (env : Environment) (ns : List Node) :
    fragments env ns >>= joined = listText env false ns :=
  contents_eq_listText env ns

theorem items_bind_joined (env : Environment) (type : ListType) (ns : List Node) :
    items env type ns >>= joined = listText env (type = .descriptive) ns := by
  rw [items_eq]
  rfl

theorem join_text (t : String) (fs : List Fragment) :
    Fragment.join (.text t :: fs) = (Fragment.join fs).map (t ++ ·) := by
  rw [Fragment.join]
  cases Fragment.join fs <;> rfl

theorem join_eq_error {fs : List Fragment} {m : Misfit} (h : Fragment.join fs = .error m) :
    m = .notText := by
  induction fs with
  | nil => cases h
  | cons f fs ih =>
      cases f with
      | stray v => exact (Except.error.inj h).symm
      | text t =>
          rw [join_text] at h
          cases hjoin : Fragment.join fs with
          | ok rest => simp [hjoin, Except.map] at h
          | error m' =>
              rw [hjoin] at h
              exact ih (hjoin.trans h)

/-- Fragments can fail to be joined in one way only, so the last of them may be joined first. -/
theorem joined_cons (f : Fragment) (fs : List Fragment) : joined (f :: fs) = do
    let rest ← joined fs
    let t ← PassM.ofMisfit f.text?
    return t ++ rest := by
  cases f with
  | text t =>
      rw [joined, joined, join_text]
      cases Fragment.join fs <;> rfl
  | stray v =>
      have hstray : joined (.stray v :: fs) = throw (.misfit .notText) := rfl
      rw [hstray, joined]
      cases hjoin : Fragment.join fs with
      | ok rest => rfl
      | error m =>
          obtain rfl := join_eq_error hjoin
          rfl

theorem listText_cons (env : Environment) (descriptive : Bool) (n : Node) (ns : List Node) :
    listText env descriptive (n :: ns) = do
      let f ← entry env descriptive n
      let f ← withBlanks n f
      let rest ← listText env descriptive ns
      let t ← PassM.ofMisfit f.text?
      return t ++ rest := by
  simp only [listText, entries, bind_assoc, pure_bind, joined_cons]

theorem passage_eq (env : Environment) (name : String) (ps : List (String × Property)) :
    passage env name ps =
      match lookupEntry name ps with
      | none => pure ""
      | some (.nodes ns) => listText env false ns
      | some (.value v) => PassM.ofMisfit (passageText v) := by
  induction ps with
  | nil => rfl
  | cons p ps ih =>
      obtain ⟨k, v | ns⟩ := p
      · rw [passage, lookupEntry]
        split
        · rfl
        · exact ih
      · rw [passage, lookupEntry, fragments_bind_joined]
        split
        · rfl
        · exact ih

/-! ### The parts that a pass looks at -/

/-- Computations in two environments number footnotes alike, under the same options, and a pass runs
in both or in neither. -/
structure Environment.Matches (env env' : Environment) : Prop where
  options : env'.options = env.options
  trim : env'.trim = env.trim
  runs : env'.scope?.isSome = env.scope?.isSome
  number : ∀ label, footnoteNumber env' label = footnoteNumber env label

theorem Environment.Matches.refl (env : Environment) : env.Matches env :=
  ⟨rfl, rfl, rfl, fun _ => rfl⟩

/-- Asking for the scope fails in both or in neither. -/
theorem Environment.Matches.scope_bind {env env' : Environment} {α : Type} (h : env.Matches env')
    (m : PassM α) : (env'.scope >>= fun _ => m) = env.scope >>= fun _ => m := by
  have hruns := h.runs
  rw [Environment.scope, Environment.scope]
  cases hs : env.scope? <;> cases hs' : env'.scope? <;> first | rfl | simp [hs, hs'] at hruns

/-- The parts of a node in one environment run the same as those of another one in another
environment.  Of the plain values the level is not read as it is but counted, and passages may hold
nodes instead.  Only a list can be descriptive. -/
structure Resembles (lenient : Prop) (env env' : Environment) (n n' : Node) : Prop where
  kind : n'.kind = n.kind
  value : ∀ name, name ≠ "level" → name ≠ "title" → name ≠ "tag" →
    Node.valueIn? name n'.properties = Node.valueIn? name n.properties
  level : n.kind = .headline → headlineLevel env' n'.properties = headlineLevel env n.properties
  passages : ∀ name, isPassageName name = true →
    SameRun lenient (passage env name n.properties) (passage env' name n'.properties)
  below : ∀ descriptive, (descriptive = true → n.kind = .plainList) →
    SameRun lenient (listText env descriptive n.children) (listText env' descriptive n'.children)
  isEmpty : n.kind = .footnoteReference → n'.children.isEmpty = n.children.isEmpty

section

variable {lenient : Prop} {env env' : Environment}

theorem dress_eq (h : env.Matches env') : dress env' = dress env := by
  funext kind term s
  cases kind <;> simp [dress, formatItem, h.trim]

theorem formatList_eq (h : env.Matches env') : formatList env' = formatList env := by
  funext type items
  simp only [formatList, h.trim]

section

variable {kind : Kind} {ps ps' : List (String × Property)} {cs cs' : List Node}
  (h : ∀ name, name ≠ "level" → name ≠ "title" → name ≠ "tag" →
    Node.valueIn? name ps' = Node.valueIn? name ps)

include h

theorem leafFragment_eq (o : Options) : leafFragment o kind ps' = leafFragment o kind ps := by
  cases kind <;> simp [leafFragment, textIn, h]

theorem leafAbort?_eq : leafAbort? kind ps' = leafAbort? kind ps := by
  cases kind <;> simp [leafAbort?, isShowableIn, h]

theorem codeOf_eq : codeOf kind ps' = codeOf kind ps := by
  simp [codeOf, h]

theorem codeAttributes_eq (o : Options) : codeAttributes o kind ps' = codeAttributes o kind ps := by
  simp [codeAttributes, givenIn, h]

theorem languageAbort?_eq (languages : Bool) :
    languageAbort? languages kind ps' = languageAbort? languages kind ps := by
  cases kind <;> simp [languageAbort?, isShowableIn, h]

theorem partsIn_eq : partsIn ps' = partsIn ps := by
  simp [partsIn, textIn, givenIn, isBrokenIn, h]

theorem partsAbort?_eq : partsAbort? ps' = partsAbort? ps := by
  simp [partsAbort?, partsShowable, isShowableIn, h]

theorem isSuppressed_eq : isSuppressed ps' = isSuppressed ps := by
  simp [isSuppressed, givenIn, h]

theorem listTypeOf_eq : listTypeOf ps' = listTypeOf ps := by
  simp [listTypeOf, h]

theorem referenceMarkup_eq (henv : env.Matches env') (hcs : cs'.isEmpty = cs.isEmpty) :
    referenceMarkup env' ps' cs' = referenceMarkup env ps cs := by
  have hinline : isInlineFootnote ps' cs' = isInlineFootnote ps cs := by
    simp [isInlineFootnote, h, hcs]
  have hlabel : shownIn "label" "None" ps' = shownIn "label" "None" ps := by simp [shownIn, h]
  simp only [referenceMarkup, hinline, hlabel, henv.number, henv.scope_bind]

end

/-- Nodes whose parts run the same run the same. -/
theorem Resembles.visit {n n' : Node} (henv : env.Matches env')
    (h : Resembles lenient env env' n n') :
    SameRun lenient (visit env n) (ForumMarkup.visit env' n') := by
  obtain ⟨kind, ps, cs⟩ := n
  obtain ⟨kind', ps', cs'⟩ := n'
  obtain rfl : kind' = kind := h.kind
  have hvalue : ∀ name, name ≠ "level" → name ≠ "title" → name ≠ "tag" →
      Node.valueIn? name ps' = Node.valueIn? name ps := h.value
  have hcontents : SameRun lenient (listText env false cs) (listText env' false cs') :=
    h.below false nofun
  cases hrole : kind'.role with
  | container =>
      rw [visit_container env ps cs hrole, visit_container env' ps' cs' hrole,
        fragments_bind_joined, fragments_bind_joined, dress_eq henv]
      exact hcontents.bind_right _
  | leaf =>
      rw [visit_leaf env ps cs hrole, visit_leaf env' ps' cs' hrole, henv.options,
        leafFragment_eq hvalue, leafAbort?_eq hvalue]
      exact .refl _
  | codeBlock =>
      rw [visit_codeBlock env ps cs hrole, visit_codeBlock env' ps' cs' hrole, henv.options,
        codeOf_eq hvalue, codeAttributes_eq hvalue, languageAbort?_eq hvalue]
      exact .refl _
  | headline =>
      obtain rfl := Kind.eq_headline hrole
      have hlevel : headlineLevel env' ps' = headlineLevel env ps := h.level rfl
      rw [visit_headline, visit_headline, fragments_bind_joined, fragments_bind_joined,
        isSuppressed_eq hvalue, hlevel]
      split
      · exact .refl _
      · exact .bind_left _ fun level => (h.passages "title" rfl).bind fun title =>
          .bind_left _ fun line => hcontents.bind_right _
  | list =>
      obtain rfl := Kind.eq_plainList hrole
      rw [visit_plainList, visit_plainList, listTypeOf_eq hvalue, formatList_eq henv]
      refine .bind_left _ fun type => ?_
      rw [items_bind_joined, items_bind_joined]
      exact (h.below _ fun _ => rfl).bind_right _
  | link =>
      obtain rfl := Kind.eq_link hrole
      rw [visit_link, visit_link, fragments_bind_joined, fragments_bind_joined,
        partsIn_eq hvalue, partsAbort?_eq hvalue]
      exact .bind_left _ fun parts => hcontents.bind_right _
  | reference =>
      obtain rfl := Kind.eq_footnoteReference hrole
      have hempty : cs'.isEmpty = cs.isEmpty := h.isEmpty rfl
      rw [visit_footnoteReference, visit_footnoteReference, referenceMarkup_eq hvalue henv hempty]
      exact .refl _
  | refused =>
      rw [visit_refused env ps cs hrole, visit_refused env' ps' cs' hrole]
      exact .refl _

/-- **Nodes whose parts run the same run the same**, also as items of a descriptive list. -/
theorem Resembles.entry {n n' : Node} (henv : env.Matches env')
    (h : Resembles lenient env env' n n') (descriptive : Bool) :
    SameRun lenient (entry env descriptive n) (ForumMarkup.entry env' descriptive n') := by
  have hvisit := h.visit henv
  have htag := h.passages "tag" rfl
  have hcontents := h.below false nofun
  have hkind := h.kind
  obtain ⟨kind, ps, cs⟩ := n
  obtain ⟨kind', ps', cs'⟩ := n'
  obtain rfl : kind' = kind := hkind
  rw [ForumMarkup.entry, ForumMarkup.entry, fragments_bind_joined, fragments_bind_joined,
    dress_eq henv]
  split
  · exact htag.bind fun tag => hcontents.bind_right _
  · exact hvisit

/-- They have the same blanks after them. -/
theorem Resembles.withBlanks_eq {n n' : Node} (h : Resembles lenient env env' n n') :
    withBlanks n' = withBlanks n := by
  have hcount : n'.postBlank = n.postBlank := by
    rw [Node.postBlank, Node.postBlank, Node.value?, Node.value?,
      h.value "post_blank" (by decide) (by decide) (by decide)]
  funext fragment
  rw [withBlanks, withBlanks, hcount, h.kind]

/-- As documents they run the same, if the footnotes after them do. -/
theorem Resembles.document {n n' : Node} (henv : env.Matches env')
    (h : Resembles lenient env env' n n')
    (hnotes : SameRun lenient (footnoteSection env) (footnoteSection env')) :
    SameRun lenient (document env n) (ForumMarkup.document env' n') := by
  rw [ForumMarkup.document, ForumMarkup.document, transcode, transcode, h.kind, h.withBlanks_eq]
  exact .bind_left _ fun _ => ((h.visit henv).bind_right _).bind fun body => hnotes.bind_right _

/-- Lists run the same if their first nodes do, with the same blanks after them, and the others. -/
theorem sameRun_cons {descriptive : Bool} {n n' : Node} {ns ns' : List Node}
    (hentry : SameRun lenient (entry env descriptive n) (entry env' descriptive n'))
    (hblanks : withBlanks n' = withBlanks n)
    (hrest : SameRun lenient (listText env descriptive ns) (listText env' descriptive ns')) :
    SameRun lenient (listText env descriptive (n :: ns))
      (listText env' descriptive (n' :: ns')) := by
  rw [listText_cons, listText_cons, hblanks]
  exact hentry.bind fun f => .bind_left _ fun f' => hrest.bind_right _

end

/-! ### Footnotes -/

section

variable {lenient : Prop} {env env' : Environment} {s s' : Scope} (hs : env.scope? = some s)
  (hs' : env'.scope? = some s')

include hs hs' in
/-- Numbers depend on which labels are defined, but not on the definitions. -/
theorem footnoteNumber_eq {label : String} (h : s'.defines label = s.defines label) :
    footnoteNumber env' label = footnoteNumber env label := by
  simp only [footnoteNumber, Environment.scope, hs, hs', pure_bind]
  refine bind_congr fun p => ?_
  cases hplace : FootnoteTable.place? label p.numbers with
  | some place => simp only [FootnoteTable.numberFor, hplace, PassM.ofUnsupported, pure_bind]
  | none =>
      rw [Scope.defines, Scope.defines] at h
      cases hd : lookupEntry label s.definitions <;>
        cases hd' : lookupEntry label s'.definitions <;>
          simp_all [FootnoteTable.numberFor, PassM.ofUnsupported]

include hs in
theorem footnoteAt_bind {α : Type} (place : Nat) (f : Option (Nat × Node) → PassM α) :
    footnoteAt env place >>= f = get >>= fun p : Progress =>
      f (FootnoteTable.at? { definitions := s.definitions, numbers := p.numbers } place) := by
  simp only [footnoteAt, Environment.scope, hs, pure_bind, bind_assoc]

/-- Tables whose definitions are related have related entries at every place. -/
theorem at?_rel {R : Node → Node → Prop} {definitions definitions' : List (String × Node)}
    (h : ∀ label, Option.Rel R (lookupEntry label definitions) (lookupEntry label definitions'))
    (numbers : List String) (place : Nat) :
    Option.Rel (fun e e' => e'.1 = e.1 ∧ R e.2 e'.2)
      (FootnoteTable.at? { definitions := definitions, numbers := numbers } place)
      (FootnoteTable.at? { definitions := definitions', numbers := numbers } place) := by
  rw [FootnoteTable.at?, FootnoteTable.at?]
  cases numbers[place]? with
  | none => exact .none
  | some label =>
      have hlabel := h label
      dsimp only
      generalize lookupEntry label definitions = d, lookupEntry label definitions' = d' at hlabel ⊢
      cases hlabel with
      | some hd => exact .some ⟨rfl, hd⟩
      | none => exact .none

include hs hs' in
/-- Definitions whose texts run the same make lists of footnotes that do. -/
theorem footnoteSection_sameRun (henv : env.Matches env')
    (hlength : s'.definitions.length = s.definitions.length)
    (htext : ∀ label, Option.Rel
      (fun d d' =>
        SameRun lenient (listText env false d.children) (listText env' false d'.children))
      (lookupEntry label s.definitions) (lookupEntry label s'.definitions)) :
    SameRun lenient (footnoteSection env) (footnoteSection env') := by
  have hwritten : ∀ {d d' : Node},
      SameRun lenient (listText env false d.children) (listText env' false d'.children) →
      SameRun lenient (definitionText env d) (definitionText env' d') := by
    intro d d' hd
    rw [definitionText, definitionText, contents_eq_listText, contents_eq_listText, henv.trim]
    exact hd.bind_right _
  have hlines : ∀ bound place, SameRun lenient
      (noteLines (footnoteAt env) (definitionText env) bound place)
      (noteLines (footnoteAt env') (definitionText env') bound place) := by
    intro bound
    induction bound with
    | zero => exact fun _ => .refl _
    | succ bound ih =>
        intro place
        rw [noteLines, noteLines, footnoteAt_bind hs, footnoteAt_bind hs']
        refine .bind_left _ fun p => ?_
        have hentry := at?_rel htext p.numbers place
        generalize FootnoteTable.at? { definitions := s.definitions, numbers := p.numbers } place =
          entry, FootnoteTable.at? { definitions := s'.definitions, numbers := p.numbers } place =
          entry' at hentry ⊢
        cases hentry with
        | none => exact .refl _
        | @some e e' hentry =>
            obtain ⟨number, d⟩ := e
            obtain ⟨number', d'⟩ := e'
            obtain ⟨rfl, hd⟩ : number' = number ∧ _ := hentry
            exact (hwritten hd).bind fun text => (ih (place + 1)).bind_right _
  rw [footnoteSection_of_scope hs, footnoteSection_of_scope hs', noteSection, noteSection,
    footnoteAt_bind hs, footnoteAt_bind hs', henv.options, hlength]
  refine .bind_left _ fun p => ?_
  have hfirst := at?_rel htext p.numbers 0
  generalize FootnoteTable.at? { definitions := s.definitions, numbers := p.numbers } 0 = entry,
    FootnoteTable.at? { definitions := s'.definitions, numbers := p.numbers } 0 = entry'
    at hfirst ⊢
  cases hfirst with
  | none => exact .refl _
  | some _ => exact (hlines s.definitions.length 0).bind_right _

end

end ForumMarkup
