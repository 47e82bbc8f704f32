import ForumMarkup.Document.Builder
import ForumMarkup.Proofs.Pass.Document
import ForumMarkup.Proofs.Value.Points
import Mathlib.Logic.ExistsUnique
/-
**Links that are built from a raw target.**

A raw target is split at its first colon when the link is built, put together again when the link
has lost it, and resolved when the link is written.  Web links and anchors come out of this as they
went in, the latter in their one form.  Every other target ends the pass and is told by its scheme,
and one without a colon by a scheme of its own.  A link can do without its raw target: only the
sentence about a target without a scheme changes then.

The form of an anchor is made from the bytes of its target, so an anchor with a surrogate in it has
none, and ends the pass as well.  Elsewhere a surrogate does no harm: markup and sentences are text,
and show it as the replacement character.

Main definitions:

* `ForumMarkup.SchemeOf`, `ForumMarkup.UrlOf` — the scheme and the URL of a raw target;
* `ForumMarkup.BrokenAnchor` — anchors that have no bytes;
* `ForumMarkup.Node.without` — a node without the properties under a name;
* `ForumMarkup.linkRun` — what the run of a link comes to after that of its description;
* `ForumMarkup.SameLink` — two runs are the same, except for the target of a refused link;
* `ForumMarkup.RawLink` — what is said of a link with a raw target.

Main results:

* `ForumMarkup.url_split` — **splitting and resolving a raw target** gives its URL;
* `ForumMarkup.runFrom_transcode_link` — the run of a link in a pass;
* `ForumMarkup.transcode_rawLink` — **what a link with a raw target is written as**.
-/

set_option autoImplicit false

namespace ForumMarkup

open Text (pointsOf imageOf)

/-! ### Raw targets -/

/-- The scheme of a raw target: what stands before its first colon. -/
inductive SchemeOf : (raw scheme : List Text.Point) → Prop
  | before {scheme path : List Text.Point} (h : .char ':' ∉ scheme) :
      SchemeOf (scheme ++ .char ':' :: path) scheme
  | fuzzy {raw : List Text.Point} (h : .char ':' ∉ raw) : SchemeOf raw (pointsOf "fuzzy")

/-- The URL of a raw target: web links are kept, and anchors have one form. -/
inductive UrlOf (raw : List Text.Point) : String → Prop
  | web (h : pointsOf "http:" <+: raw ∨ pointsOf "https:" <+: raw) : UrlOf raw (imageOf raw)
  | anchor (h : pointsOf "about:" <+: raw) (hchars : raw.any Text.Point.isSurrogate = false) :
      UrlOf raw (normalizeAnchor (imageOf raw))

/-- A raw target is that of an anchor and no text. -/
def BrokenAnchor (raw : List Text.Point) : Prop :=
  pointsOf "about:" <+: raw ∧ raw.any Text.Point.isSurrogate = true

theorem splitAtColon_append {before : List Text.Point} (after : List Text.Point)
    (h : .char ':' ∉ before) :
    splitAtColon (before ++ .char ':' :: after) = some (before, after) := by
  induction before with
  | nil => rfl
  | cons c cs ih =>
      simp only [List.mem_cons, not_or] at h
      obtain ⟨hc, hcs⟩ := h
      rw [List.cons_append, splitAtColon, if_neg (Ne.symm hc), ih hcs]
      rfl

theorem splitAtColon_of_notMem {points : List Text.Point} (h : .char ':' ∉ points) :
    splitAtColon points = none := by
  induction points with
  | nil => rfl
  | cons c cs ih =>
      simp only [List.mem_cons, not_or] at h
      obtain ⟨hc, hcs⟩ := h
      rw [splitAtColon, if_neg (Ne.symm hc), ih hcs]
      rfl

theorem splitTarget_before {scheme : List Text.Point} (path : List Text.Point)
    (h : .char ':' ∉ scheme) : splitTarget (scheme ++ .char ':' :: path) = (scheme, path) := by
  rw [splitTarget, splitAtColon_append _ h]
  rfl

theorem splitTarget_fuzzy {raw : List Text.Point} (h : .char ':' ∉ raw) :
    splitTarget raw = (pointsOf "fuzzy", raw) := by
  rw [splitTarget, splitAtColon_of_notMem h]
  rfl

/-- A raw target is a scheme, a colon and a path, or has no colon. -/
theorem before_or_fuzzy (raw : List Text.Point) :
    (∃ scheme path, .char ':' ∉ scheme ∧ raw = scheme ++ .char ':' :: path) ∨
      .char ':' ∉ raw := by
  by_cases h : .char ':' ∈ raw
  · obtain ⟨scheme, path, hraw, hscheme⟩ := List.eq_append_cons_of_mem h
    exact .inl ⟨scheme, path, hscheme, hraw⟩
  · exact .inr h

/-- A raw target has exactly one scheme, the one that it is split into. -/
theorem schemeOf_iff {raw scheme : List Text.Point} :
    SchemeOf raw scheme ↔ (splitTarget raw).1 = scheme := by
  constructor
  · rintro (h | h)
    · rw [splitTarget_before _ h]
    · rw [splitTarget_fuzzy h]
  · rintro rfl
    rcases before_or_fuzzy raw with ⟨scheme, path, h, rfl⟩ | h
    · rw [splitTarget_before _ h]
      exact .before h
    · rw [splitTarget_fuzzy h]
      exact .fuzzy h

/-- The code points of a scheme with its colon. -/
theorem pointsOf_colon (name : String) : pointsOf (name ++ ":") = pointsOf name ++ [.char ':'] := by
  simp [pointsOf, show ":".toList = [':'] from rfl]

/-- A raw target begins with a scheme and a colon exactly if this is its scheme. -/
theorem prefix_before_iff (name : String) {scheme : List Text.Point} (path : List Text.Point)
    (hname : .char ':' ∉ pointsOf name) (hscheme : .char ':' ∉ scheme) :
    pointsOf (name ++ ":") <+: scheme ++ .char ':' :: path ↔ scheme = pointsOf name := by
  rw [pointsOf_colon]
  constructor
  · rintro ⟨rest, hrest⟩
    have hsplit := splitAtColon_append rest hname
    rw [List.append_cons, hrest, splitAtColon_append _ hscheme, Option.some.injEq,
      Prod.mk.injEq] at hsplit
    exact hsplit.1
  · rintro rfl
    rw [List.append_cons _ _ path]
    exact List.prefix_append _ _

/-- What begins with a scheme and a colon has a colon. -/
theorem not_prefix_of_notMem (name : String) {raw : List Text.Point} (h : .char ':' ∉ raw) :
    ¬pointsOf (name ++ ":") <+: raw := by
  intro hbegins
  rw [pointsOf_colon] at hbegins
  exact h (hbegins.subset (by simp))

/-! ### Resolving a raw target -/

theorem isAnchor_iff {target : String} :
    isAnchor target = true ↔ "about:".toList <+: target.toList :=
  List.isPrefixOf_iff_prefix

/-- A target is an anchor if its code points are those of an anchor. -/
theorem isAnchor_imageOf {raw : List Text.Point} :
    isAnchor (imageOf raw) = true ↔ pointsOf "about:" <+: raw :=
  isAnchor_iff.trans (Text.prefix_imageOf_iff (by decide))

theorem imageOf_before (scheme path : List Text.Point) :
    imageOf (scheme ++ .char ':' :: path) = imageOf scheme ++ ":" ++ imageOf path := by
  have hcolon : Text.Point.char ':' :: path = pointsOf ":" ++ path := rfl
  rw [hcolon, Text.imageOf_append, Text.imageOf_append, Text.imageOf_pointsOf, String.append_assoc]

section

variable {scheme path raw : List Text.Point} {url : String}

/-- The URL of a raw target depends on its scheme. -/
theorem urlOf_before_iff (h : .char ':' ∉ scheme) :
    UrlOf (scheme ++ .char ':' :: path) url ↔
      webSchemes.contains (imageOf scheme) = true ∧
          url = imageOf (scheme ++ .char ':' :: path) ∨
        scheme = pointsOf "about" ∧
          (scheme ++ .char ':' :: path).any Text.Point.isSurrogate = false ∧
            url = normalizeAnchor (imageOf (scheme ++ .char ':' :: path)) := by
  have hhttp := prefix_before_iff "http" path (by decide) h
  have hhttps := prefix_before_iff "https" path (by decide) h
  have habout := prefix_before_iff "about" path (by decide) h
  have hweb : webSchemes.contains (imageOf scheme) = true ↔
      scheme = pointsOf "http" ∨ scheme = pointsOf "https" := by
    have hshown : webSchemes.contains (imageOf scheme) = true ↔
        imageOf scheme = "http" ∨ imageOf scheme = "https" := by
      simp [webSchemes]
    rw [hshown, Text.imageOf_eq_iff (by decide), Text.imageOf_eq_iff (by decide)]
  constructor
  · rintro (hbegins | ⟨hbegins, hchars⟩)
    · exact .inl ⟨hweb.2 (hbegins.imp hhttp.1 hhttps.1), rfl⟩
    · exact .inr ⟨habout.1 hbegins, hchars, rfl⟩
  · rintro (⟨hscheme, rfl⟩ | ⟨hscheme, hchars, rfl⟩)
    · exact .web ((hweb.1 hscheme).imp hhttp.2 hhttps.2)
    · exact .anchor (habout.2 hscheme) hchars

/-- A raw target without a colon has no URL. -/
theorem not_urlOf_fuzzy (h : .char ':' ∉ raw) : ¬UrlOf raw url := by
  rintro ((hbegins | hbegins) | ⟨hbegins, -⟩)
  · exact not_prefix_of_notMem "http" h hbegins
  · exact not_prefix_of_notMem "https" h hbegins
  · exact not_prefix_of_notMem "about" h hbegins

/-- The parts of a link whose raw target is a scheme, a colon and a path. -/
def splitParts (scheme path : List Text.Point) : LinkParts :=
  ⟨imageOf scheme, imageOf path, imageOf (scheme ++ .char ':' :: path),
    (scheme ++ .char ':' :: path).any Text.Point.isSurrogate⟩

/-- **Splitting and resolving a raw target** gives its URL. -/
theorem url_split (h : .char ':' ∉ scheme) :
    (splitParts scheme path).url = .ok url ↔ UrlOf (scheme ++ .char ':' :: path) url := by
  have hanchor : isAnchor (imageOf (scheme ++ .char ':' :: path)) = true ↔
      scheme = pointsOf "about" :=
    isAnchor_imageOf.trans (prefix_before_iff "about" path (by decide) h)
  rw [urlOf_before_iff h, LinkParts.url, splitParts]
  by_cases habout : scheme = pointsOf "about"
  · have hnot : webSchemes.contains (imageOf scheme) = false := by
      rw [habout, Text.imageOf_pointsOf]
      decide
    rw [resolveUrl, hanchor.2 habout, hnot]
    cases hbroken : (scheme ++ .char ':' :: path).any Text.Point.isSurrogate with
    | true => simp
    | false =>
        simp only [Bool.false_and, Bool.false_eq_true, if_false, if_true, Except.mapError,
          Except.ok.injEq, false_and, false_or, habout, true_and]
        exact eq_comm
  · have hnot := mt hanchor.1 habout
    rw [Bool.not_eq_true] at hnot
    rw [resolveUrl, hnot, ← imageOf_before]
    cases hweb : webSchemes.contains (imageOf scheme) with
    | true =>
        simp only [Bool.and_false, Bool.false_eq_true, if_false, if_true, Except.mapError,
          Except.ok.injEq, habout, true_and, false_and, or_false]
        exact eq_comm
    | false => simp [habout, Except.mapError]

end

/-- A link without a URL is the anchor of no text, or is refused for its scheme. -/
theorem url_error {parts : LinkParts} {e : Abort} (h : parts.url = .error e) :
    (parts.broken = true ∧ isAnchor parts.target = true ∧ e = .misfit .illFormed) ∨
      (parts.broken = true → isAnchor parts.target = false) ∧
        e = .unsupported (.link parts.scheme parts.target) := by
  rw [LinkParts.url] at h
  split at h
  · rename_i hbroken
    rw [Bool.and_eq_true] at hbroken
    cases h
    exact .inl ⟨hbroken.1, hbroken.2, rfl⟩
  · rename_i hbroken
    cases hurl : resolveUrl parts.scheme parts.path parts.target with
    | ok url =>
        rw [hurl] at h
        cases h
    | error u =>
        rw [hurl] at h
        cases h
        refine .inr ⟨fun hb => ?_, congrArg Abort.unsupported (resolveUrl_error hurl)⟩
        simpa [hb] using hbroken

/-- The scheme that stands for a missing one has no URL. -/
theorem url_fuzzy {path target : String} {broken : Bool} (h : isAnchor target = false) :
    (LinkParts.mk "fuzzy" path target broken).url =
      .error (.unsupported (.link "fuzzy" target)) := by
  have hweb : "fuzzy" ∉ webSchemes := by decide
  simp [LinkParts.url, resolveUrl, h, hweb, Except.mapError]

/-! ### Links with and without their raw target -/

/-- A node without the properties under a name. -/
def Node.without (name : String) (n : Node) : Node :=
  .mk n.kind (n.properties.filter fun e => e.1 != name) n.children

theorem isBrokenIn_ofPoints {name : String} {ps : List (String × Property)}
    {points : List Text.Point} (h : Node.valueIn? name ps = some (.ofPoints points)) :
    isBrokenIn name ps = points.any Text.Point.isSurrogate := by
  rw [isBrokenIn, h, Value.ofPoints]
  by_cases hbroken : points.any Text.Point.isSurrogate = true
  · rw [dif_pos hbroken, hbroken]
  · rw [dif_neg hbroken, Bool.eq_false_iff.2 hbroken]

section

variable (raw : List Text.Point) (description : List Node)

theorem properties_link : (Node.link raw description).properties =
    [("type", .value (.ofPoints (splitTarget raw).1)),
      ("path", .value (.ofPoints (splitTarget raw).2)),
      ("raw_link", .value (.ofPoints raw))] := rfl

theorem properties_without : ((Node.link raw description).without "raw_link").properties =
    [("type", .value (.ofPoints (splitTarget raw).1)),
      ("path", .value (.ofPoints (splitTarget raw).2))] := rfl

/-- The parts of a link are texts, so they can be shown. -/
theorem partsAbort?_link : partsAbort? (Node.link raw description).properties = none ∧
    partsAbort? ((Node.link raw description).without "raw_link").properties = none := by
  rw [properties_link, properties_without]
  constructor <;>
    simp [partsAbort?, partsShowable, isShowableIn, Node.valueIn?, lookupEntry,
      Value.isShowable_ofPoints, showing]

theorem partsIn_link (h : raw ≠ []) : partsIn (Node.link raw description).properties =
    ⟨imageOf (splitTarget raw).1, imageOf (splitTarget raw).2, imageOf raw,
      raw.any Text.Point.isSurrogate⟩ := by
  have hgiven : givenIn "raw_link" (Node.link raw description).properties =
      some (.ofPoints raw) := by
    rw [properties_link]
    simp [givenIn, Node.valueIn?, lookupEntry, Option.filter, Value.truthy_ofPoints, h]
  have hbroken : isBrokenIn "raw_link" (Node.link raw description).properties =
      raw.any Text.Point.isSurrogate := isBrokenIn_ofPoints rfl
  rw [partsIn, hgiven, hbroken, properties_link]
  simp [textIn, Node.valueIn?, lookupEntry, Value.shown_ofPoints]

theorem partsIn_without : partsIn ((Node.link raw description).without "raw_link").properties =
    ⟨imageOf (splitTarget raw).1, imageOf (splitTarget raw).2,
      imageOf ((splitTarget raw).1 ++ .char ':' :: (splitTarget raw).2),
      ((splitTarget raw).1 ++ .char ':' :: (splitTarget raw).2).any Text.Point.isSurrogate⟩ := by
  have htype : isBrokenIn "type" ((Node.link raw description).without "raw_link").properties =
      (splitTarget raw).1.any Text.Point.isSurrogate := isBrokenIn_ofPoints rfl
  have hpath : isBrokenIn "path" ((Node.link raw description).without "raw_link").properties =
      (splitTarget raw).2.any Text.Point.isSurrogate := isBrokenIn_ofPoints rfl
  rw [partsIn, htype, hpath, properties_without, imageOf_before]
  simp [textIn, givenIn, Node.valueIn?, lookupEntry, Value.shown_ofPoints, Text.Point.isSurrogate]

end

/-! ### Runs of links -/

/-- The run of a link with some parts, from that of its description. -/
def linkRun (parts : LinkParts) :
    Except Abort String × Progress → Except Abort Fragment × Progress
  | (.error e, q) => (.error e, q)
  | (.ok text, q) =>
    match parts.url with
    | .error e => (.error e, q)
    | .ok url => (.ok (.text (formatLink url text)),
        { q with record := q.record ++ [.resolved parts.scheme parts.target url] })

/-- Two runs are the same, except for the target of a refused link. -/
inductive SameLink : (run run' : Except Abort Fragment × Progress) → Prop
  | same {run : Except Abort Fragment × Progress} : SameLink run run
  | refused {scheme target target' : String} {q : Progress} :
      SameLink (.error (.unsupported (.link scheme target)), q)
        (.error (.unsupported (.link scheme target')), q)

variable {env : Environment} {ps ps' : List (String × Property)} {cs : List Node} {p q : Progress}

theorem runFrom_linkMarkup {text : String} :
    (linkMarkup (partsIn ps) text >>= fun markup => return Fragment.text markup).runFrom p =
      linkRun (partsIn ps) (.ok text, p) := by
  rw [linkRun]
  cases hurl : (partsIn ps).url with
  | error e =>
      rw [linkMarkup_of_error _ hurl]
      rfl
  | ok url =>
      rw [linkMarkup_of_ok _ hurl]
      rfl

/-- A link without blanks after it runs as its description does, and is then resolved. -/
theorem runFrom_transcode_link (hblank : Node.valueIn? "post_blank" ps = none)
    (hparts : partsAbort? ps = none) :
    (transcode env (.mk .link ps cs)).runFrom p =
      linkRun (partsIn ps) ((contents env cs).runFrom p) := by
  have hplain : ∀ f, withBlanks (.mk .link ps cs) f = pure f := by
    intro f
    have hcount : (Node.mk .link ps cs).postBlank = .ok 0 := by
      change ((Node.valueIn? "post_blank" ps).getD .null).count = .ok 0
      rw [hblank]
      rfl
    rw [withBlanks, hcount]
    rfl
  have hvisit : transcode env (.mk .link ps cs) = contents env cs >>= fun text =>
      linkMarkup (partsIn ps) text >>= fun markup => return Fragment.text markup := by
    rw [transcode, visit_link, hparts]
    simp only [hplain, contents, bind_pure, PassM.settle, pure_bind]
  rw [hvisit]
  rcases hrun : (contents env cs).runFrom p with ⟨e | text, q⟩
  · rw [PassM.runFrom_bind_error hrun]
    rfl
  · rw [PassM.runFrom_bind_ok hrun, runFrom_linkMarkup]

/-- Links that are refused for the same scheme run the same, except for their targets. -/
theorem SameLink.of_error {parts parts' : LinkParts} {scheme target target' : String}
    (h : parts.url = .error (.unsupported (.link scheme target)))
    (h' : parts'.url = .error (.unsupported (.link scheme target')))
    (run : Except Abort String × Progress) : SameLink (linkRun parts run) (linkRun parts' run) := by
  obtain ⟨e | text, q⟩ := run
  · exact .same
  · rw [linkRun, linkRun, h, h']
    exact .refused

/-! ### Links with a raw target -/

section

variable {scheme path raw : List Text.Point} {d : List Node}

theorem partsIn_before (h : .char ':' ∉ scheme) :
    partsIn (Node.link (scheme ++ .char ':' :: path) d).properties = splitParts scheme path := by
  rw [partsIn_link _ _ (by simp), splitTarget_before _ h]
  rfl

theorem partsIn_without_before (h : .char ':' ∉ scheme) :
    partsIn ((Node.link (scheme ++ .char ':' :: path) d).without "raw_link").properties =
      splitParts scheme path := by
  rw [partsIn_without, splitTarget_before _ h]
  rfl

/-- A raw target without a colon is refused, with or without itself among the properties. -/
theorem urlIn_fuzzy (h : .char ':' ∉ raw) :
    (∃ target, urlIn (Node.link raw d).properties =
        .error (.unsupported (.link "fuzzy" target))) ∧
      ∃ target, urlIn ((Node.link raw d).without "raw_link").properties =
        .error (.unsupported (.link "fuzzy" target)) := by
  -- Put together again, the target has a colon, but not behind the scheme of an anchor.
  have hfuzzy : ∀ path, isAnchor (imageOf (pointsOf "fuzzy" ++ .char ':' :: path)) = false := by
    intro path
    rw [Bool.eq_false_iff, ne_eq, isAnchor_imageOf]
    have hscheme : pointsOf "fuzzy" ≠ pointsOf "about" := by decide
    exact mt (prefix_before_iff "about" path (by decide) (by decide)).1 hscheme
  have hwithout : urlIn ((Node.link raw d).without "raw_link").properties =
      .error (.unsupported (.link "fuzzy" (imageOf (pointsOf "fuzzy" ++ .char ':' :: raw)))) := by
    rw [urlIn, partsIn_without, splitTarget_fuzzy h, Text.imageOf_pointsOf]
    exact url_fuzzy (hfuzzy raw)
  refine ⟨?_, _, hwithout⟩
  by_cases hempty : raw = []
  -- An empty target does not count as given.
  · subst hempty
    exact ⟨_, hwithout⟩
  · have hraw : isAnchor (imageOf raw) = false := by
      simpa using mt isAnchor_imageOf.1 (not_prefix_of_notMem "about" h)
    refine ⟨imageOf raw, ?_⟩
    rw [urlIn, partsIn_link _ _ hempty, splitTarget_fuzzy h, Text.imageOf_pointsOf]
    exact url_fuzzy hraw

/-- The URL of a raw target is that of its link. -/
theorem urlIn_of_urlOf {url : String} (h : UrlOf raw url) :
    urlIn (Node.link raw d).properties = .ok url := by
  rcases before_or_fuzzy raw with ⟨scheme, path, hscheme, rfl⟩ | hraw
  · rw [urlIn, partsIn_before hscheme, url_split hscheme]
    exact h
  · exact absurd h (not_urlOf_fuzzy hraw)

/-- A link whose raw target has no URL is refused for the scheme of the target, unless that is the
anchor of no text. -/
theorem urlIn_of_schemeOf (hnone : ∀ url, ¬UrlOf raw url) (hbroken : ¬BrokenAnchor raw)
    (h : SchemeOf raw scheme) : ∃ target, urlIn (Node.link raw d).properties =
      .error (.unsupported (.link (imageOf scheme) target)) := by
  cases h with
  | @before scheme path hscheme =>
      rw [urlIn, partsIn_before hscheme]
      cases hurl : (splitParts scheme path).url with
      | ok url => exact absurd ((url_split hscheme).1 hurl) (hnone url)
      | error e =>
          rcases url_error hurl with ⟨hchars, hanchor, -⟩ | ⟨-, rfl⟩
          · exact absurd ⟨isAnchor_imageOf.1 hanchor, hchars⟩ hbroken
          · exact ⟨_, rfl⟩
  | fuzzy hraw =>
      rw [Text.imageOf_pointsOf]
      exact (urlIn_fuzzy hraw).1

/-- An anchor of no text has no bytes. -/
theorem urlIn_of_brokenAnchor (h : BrokenAnchor raw) :
    urlIn (Node.link raw d).properties = .error (.misfit .illFormed) := by
  obtain ⟨hbegins, hchars⟩ := h
  have hgiven : raw ≠ [] := by
    rintro rfl
    cases hchars
  rw [urlIn, partsIn_link _ _ hgiven, LinkParts.url]
  exact if_pos (by rw [hchars, isAnchor_imageOf.2 hbegins]; rfl)

theorem runFrom_rawLink (env : Environment) (raw : List Text.Point) (d : List Node)
    (p : Progress) : (transcode env (Node.link raw d)).runFrom p =
      linkRun (partsIn (Node.link raw d).properties) ((contents env d).runFrom p) :=
  runFrom_transcode_link rfl (partsAbort?_link raw d).1

/-- A link runs the same without its raw target, except for the target that a refusal tells. -/
theorem sameLink_without (env : Environment) (raw : List Text.Point) (d : List Node)
    (p : Progress) : SameLink ((transcode env (Node.link raw d)).runFrom p)
      ((transcode env ((Node.link raw d).without "raw_link")).runFrom p) := by
  have hrebuilt : (transcode env ((Node.link raw d).without "raw_link")).runFrom p =
      linkRun (partsIn ((Node.link raw d).without "raw_link").properties)
        ((contents env d).runFrom p) :=
    runFrom_transcode_link rfl (partsAbort?_link raw d).2
  rw [runFrom_rawLink, hrebuilt]
  rcases before_or_fuzzy raw with ⟨scheme, path, hscheme, rfl⟩ | hraw
  -- Scheme and path make up a target with a colon, so nothing is lost with it.
  · rw [partsIn_before hscheme, partsIn_without_before hscheme]
    exact .same
  · obtain ⟨⟨target, h⟩, target', h'⟩ := urlIn_fuzzy (d := d) hraw
    exact .of_error h h' _

end

theorem formatLink_eq (url text : String) :
    formatLink url text =
      "[url=" ++ url ++ "]" ++ (if text = "" then url else text) ++ "[/url]" := by
  have hopening : "[" ++ Tag.url.name ++ "=" = "[url=" := rfl
  have hclosing : "[/" ++ Tag.url.name ++ "]" = "[/url]" := rfl
  rw [formatLink, Tag.wrapValue, wrapValue, hopening]
  simp only [String.append_assoc, ← hclosing, String.isEmpty_iff]

/-- What is said of a link with a raw target and a description. -/
structure RawLink (raw : List Text.Point) (d : List Node) : Prop where
  /-- A raw target has one scheme. -/
  scheme : ∃! scheme, SchemeOf raw scheme
  /-- The link keeps the raw target as it is, surrogates included. -/
  kept : ((Node.link raw d).value? "raw_link").bind Value.points? = some raw
  /-- If the description is written, the link is a tag with the URL of the target around it, or
  around the URL if the description is empty. -/
  written : ∀ env p text q url, (contents env d).runFrom p = (.ok text, q) → UrlOf raw url →
    ((transcode env (Node.link raw d)).runFrom p).1 =
      .ok (.text ("[url=" ++ url ++ "]" ++ (if text = "" then url else text) ++ "[/url]"))
  /-- A target without a URL is refused for its scheme, if it is not the anchor of no text. -/
  refused : ∀ env p text q scheme, (contents env d).runFrom p = (.ok text, q) →
    (∀ url, ¬UrlOf raw url) → ¬BrokenAnchor raw → SchemeOf raw scheme →
    ∃ u, ((transcode env (Node.link raw d)).runFrom p).1 = .error (.unsupported u) ∧
      u.constructClass = .link ∧ u.construct = .text (imageOf scheme)
  /-- An anchor of no text has no bytes to make its form from. -/
  broken : ∀ env p text q, (contents env d).runFrom p = (.ok text, q) → BrokenAnchor raw →
    ((transcode env (Node.link raw d)).runFrom p).1 = .error (.misfit .illFormed)
  /-- So a pass that comes to the link ends there. -/
  ends : ∀ o root before after scheme,
    (Scope.ofDocument root).documentPoints root = before ++ .construct (Node.link raw d) :: after →
    (∀ m ∈ before, m.abort? (.ofDocument o root) = none) →
    (∀ url, ¬UrlOf raw url) → ¬BrokenAnchor raw → SchemeOf raw scheme →
    ∃ u, (renderDocument o root).1 = .error (.unsupported u) ∧
      u.constructClass = .link ∧ u.construct = .text (imageOf scheme)
  /-- Without the raw target the link is written or refused as before. -/
  rebuilt : ∀ env p, SameLink ((transcode env (Node.link raw d)).runFrom p)
    ((transcode env ((Node.link raw d).without "raw_link")).runFrom p)

/-- **What a link with a raw target is written as**, in every state of a pass. -/
theorem transcode_rawLink (raw : List Text.Point) (d : List Node) : RawLink raw d where
  scheme := ⟨(splitTarget raw).1, schemeOf_iff.2 rfl, fun _ h => (schemeOf_iff.1 h).symm⟩
  kept := Value.points?_ofPoints raw
  written env p text q url htext hurl := by
    have hurl : (partsIn (Node.link raw d).properties).url = .ok url := urlIn_of_urlOf hurl
    rw [runFrom_rawLink, htext, linkRun, hurl, ← formatLink_eq]
  refused env p text q scheme htext hnone hbroken hscheme := by
    obtain ⟨target, hurl⟩ := urlIn_of_schemeOf (d := d) hnone hbroken hscheme
    refine ⟨.link (imageOf scheme) target, ?_, rfl, rfl⟩
    rw [urlIn] at hurl
    rw [runFrom_rawLink, htext, linkRun, hurl]
  broken env p text q htext hbroken := by
    have hurl : (partsIn (Node.link raw d).properties).url = .error (.misfit .illFormed) :=
      urlIn_of_brokenAnchor hbroken
    rw [runFrom_rawLink, htext, linkRun, hurl]
  ends o root before after scheme hpoints hbefore hnone hbroken hscheme := by
    obtain ⟨target, hurl⟩ := urlIn_of_schemeOf (d := d) hnone hbroken hscheme
    refine ⟨.link (imageOf scheme) target, ?_, rfl, rfl⟩
    refine renderDocument_error_of_reached o hpoints hbefore ?_
    exact congrArg abortOf hurl
  rebuilt env p := sameLink_without env raw d p

/-- The theorem at an anchor with two colons, and at two targets that are refused. -/
theorem transcode_rawLink_anchor :
    let d := [Node.text "a"]
    let raw := pointsOf "about:/#b:c"
    (contents {} d).runFrom {} = (.ok "a", {}) ∧ UrlOf raw "about:#b:c" ∧
      ((transcode {} (Node.link raw d)).runFrom {}).1 =
        .ok (.text "[url=about:#b:c]a[/url]") ∧
      (∃ u, ((transcode {} (Node.link (pointsOf "HTTP:b") d)).runFrom {}).1 =
          .error (.unsupported u) ∧ u.constructClass = .link ∧ u.construct = .text "HTTP") ∧
      ∃ u, ((transcode {} (Node.link [] d)).runFrom {}).1 = .error (.unsupported u) ∧
        u.constructClass = .link ∧ u.construct = .text "fuzzy" := by
  intro d raw
  have htext : (contents {} d).runFrom {} = (.ok "a", {}) := rfl
  have hnormal : normalizeAnchor (imageOf raw) = "about:#b:c" := by decide +kernel
  have hanchor : UrlOf raw "about:#b:c" := by
    rw [← hnormal]
    exact .anchor (by decide) (by decide)
  have hnone : ∀ url, ¬UrlOf (pointsOf "HTTP:b") url := by
    rintro url ((h | h) | ⟨h, -⟩) <;> exact absurd h (by decide)
  have hscheme : SchemeOf (pointsOf "HTTP" ++ .char ':' :: pointsOf "b") (pointsOf "HTTP") :=
    .before (by decide)
  refine ⟨htext, hanchor, ?_, ?_, ?_⟩
  · exact (transcode_rawLink raw d).written {} {} "a" {} _ htext hanchor
  · exact (transcode_rawLink (pointsOf "HTTP:b") d).refused {} {} "a" {} _ htext hnone
      (fun h => absurd h.1 (by decide)) hscheme
  · exact (transcode_rawLink [] d).refused {} {} "a" {} _ htext
      (fun _ => not_urlOf_fuzzy (by decide)) (fun h => absurd h.1 (by decide)) (.fuzzy (by decide))

/-- An anchor with a surrogate in it has no URL, and the pass that comes to it does not say that it
cannot be written. -/
theorem transcode_brokenAnchor :
    let raw := pointsOf "about:" ++ [.surrogate 0]
    pointsOf "about:" <+: raw ∧
      (renderDocument {} (.branch .orgData [Node.link raw []])).1 = .error (.misfit .illFormed) :=
  ⟨List.prefix_append _ _, rfl⟩

end ForumMarkup
