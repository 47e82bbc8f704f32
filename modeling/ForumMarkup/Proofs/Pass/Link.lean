import ForumMarkup.Pass.Renderer
import ForumMarkup.Proofs.Markup.Anchor
import ForumMarkup.Proofs.Markup.Nesting
import ForumMarkup.Proofs.Pass.Role
import ForumMarkup.Proofs.Pass.SameRun
import Mathlib.Data.List.TakeWhile
/-
**The opening tag of a link.**

The URL of a link is the value of its opening tag, and the tag ends at the first closing bracket.
Brackets are safe characters, so nothing escapes them: a URL has the brackets that were written in
it, and those of an anchor that were written as escapes.  Only there can the tag of a link whose
properties have no brackets end too early.

Main results:

* `ForumMarkup.visit_link_yields` — the markup of a link is a tag with its URL around some text;
* `ForumMarkup.takeWhile_tag_iff` — a tag ends where its value ends exactly when there is no closing
  bracket in the value;
* `ForumMarkup.resolveUrl_brackets` — **which brackets a URL has**, and when its tag ends too early;
* `ForumMarkup.resolveUrl_escapedBracket` — a URL can have a bracket that its link has not.
-/

set_option autoImplicit false

namespace ForumMarkup

/-! ### The markup of a link -/

theorem linkMarkup_yields (ps : List (String × Property)) (description : String) :
    (linkMarkup (partsIn ps) description).Yields fun markup => ∃ url text, urlIn ps = .ok url ∧
      markup = Tag.url.wrapValue text url := by
  cases hurl : urlIn ps with
  | error e =>
      intro p markup q hrun
      rw [linkMarkup_of_error _ hurl] at hrun
      cases hrun
  | ok url =>
      rw [linkMarkup_of_ok _ hurl]
      exact .after fun _ => .pure ⟨url, _, rfl, rfl⟩

/-- The markup of a link is a tag with its URL around some text. -/
theorem visit_link_yields (env : Environment) (ps : List (String × Property)) (cs : List Node) :
    (visit env (.mk .link ps cs)).Yields fun f => ∃ url text, urlIn ps = .ok url ∧
      f = .text (Tag.url.wrapValue text url) := by
  rw [visit_link]
  refine .bind (P := (partsIn ps = ·)) (.settle _ rfl) ?_
  rintro parts rfl
  refine .after fun s => .bind (linkMarkup_yields ps s) ?_
  rintro markup ⟨url, text, hurl, rfl⟩
  exact .pure ⟨url, text, hurl, rfl⟩

/-! ### Where a tag ends -/

/-- What stands in front of the first closing bracket is the value of a tag exactly when there is no
closing bracket in the value. -/
theorem takeWhile_tag_iff (value rest : List Char) :
    (value ++ ']' :: rest).takeWhile (· != ']') = value ↔ ']' ∉ value := by
  constructor
  · intro h hmem
    rw [← h] at hmem
    simpa using List.mem_takeWhile_imp hmem
  · intro h
    have hvalue : ∀ c ∈ value, (c != ']') = true := by
      intro c hc
      simp only [bne_iff_ne]
      rintro rfl
      exact h hc
    rw [List.takeWhile_append_of_pos hvalue]
    simp

/-! ### Brackets -/

/-- The brackets of a URL are those of what an anchor stands for; a web link has those of its scheme
and its path. -/
theorem mem_resolveUrl_iff {scheme path target url : String} {bracket : Char}
    (hbracket : bracket ∈ ['[', ']']) (hscheme : bracket ∉ scheme.toList)
    (hpath : bracket ∉ path.toList) (hurl : resolveUrl scheme path target = .ok url) :
    bracket ∈ url.toList ↔
      isAnchor target = true ∧ bracket ∈ Text.percentDecode target.toList := by
  have hcolon : bracket ≠ ':' := by
    rcases List.mem_pair.1 hbracket with rfl | rfl <;> decide
  unfold resolveUrl at hurl
  split at hurl
  · rename_i hanchor
    cases hurl
    simp [hanchor, bracket_mem_normalizeAnchor_iff hbracket]
  · rename_i hanchor
    split at hurl
    · cases hurl
      have hseparator : ":".toList = [':'] := rfl
      simp [hanchor, hscheme, hpath, hseparator, hcolon]
    · cases hurl

/-- **Which brackets a URL has** when its scheme and its path have none: those of the text that an
anchor stands for, which it may have had as escapes.  The tag of a link ends at the first closing
bracket after the beginning of its URL, unless that text has one. -/
theorem resolveUrl_brackets {scheme path target url : String} (hscheme : BracketFree scheme)
    (hpath : BracketFree path) (hurl : resolveUrl scheme path target = .ok url) :
    (∀ bracket ∈ ['[', ']'], bracket ∈ url.toList ↔
        isAnchor target = true ∧ bracket ∈ Text.percentDecode target.toList) ∧
      ∀ (env : Environment) (ps : List (String × Property)) (cs : List Node) (p q : Progress)
        (f : Fragment) (parts : LinkParts), linkParts ps = .ok parts → parts.scheme = scheme →
        parts.path = path → parts.target = target →
        (visit env (.mk .link ps cs)).runFrom p = (.ok f, q) →
        ∃ markup, f = .text ("[url=" ++ markup) ∧
          (markup.toList.takeWhile (· != ']') = url.toList ↔
            ¬(isAnchor target = true ∧ ']' ∈ Text.percentDecode target.toList)) := by
  have hbrackets : ∀ bracket ∈ ['[', ']'], bracket ∈ url.toList ↔
      isAnchor target = true ∧ bracket ∈ Text.percentDecode target.toList := by
    intro bracket hbracket
    have hnone : ∀ {s : String}, BracketFree s → bracket ∉ s.toList := by
      intro s hs
      rcases List.mem_pair.1 hbracket with rfl | rfl
      · exact hs.1
      · exact hs.2
    exact mem_resolveUrl_iff hbracket (hnone hscheme) (hnone hpath) hurl
  refine ⟨hbrackets, ?_⟩
  rintro env ps cs p q f parts hparts rfl rfl rfl hrun
  obtain ⟨url', text, hurl', rfl⟩ := visit_link_yields env ps cs p f q hrun
  have hsame : url' = url := by
    rw [urlIn, partsIn_of_linkParts hparts] at hurl'
    exact Except.ok.inj ((resolveUrl_of_url hurl').symm.trans hurl)
  subst hsame
  have hmarkup : (url' ++ "]" ++ text ++ "[/url]").toList =
      url'.toList ++ ']' :: (text.toList ++ "[/url]".toList) := by
    simp [String.toList_append]
  refine ⟨url' ++ "]" ++ text ++ "[/url]", ?_, ?_⟩
  · have hclosing : "[/" ++ Tag.url.name ++ "]" = "[/url]" := rfl
    have hopening : "[" ++ Tag.url.name ++ "=" = "[url=" := rfl
    rw [Tag.wrapValue, wrapValue, hopening]
    simp only [String.append_assoc, ← hclosing]
  · rw [hmarkup, takeWhile_tag_iff, hbrackets ']' (by decide)]

/-- The theorem at an anchor with escapes of both brackets, and at the link with that target. -/
theorem resolveUrl_brackets_anchor :
    BracketFree "about" ∧ BracketFree "#a%5B%5db" ∧
      resolveUrl "about" "#a%5B%5db" "about:#a%5B%5db" = .ok "about:#a[]b" ∧
      (']' ∈ "about:#a[]b".toList ↔ isAnchor "about:#a%5B%5db" = true ∧
        ']' ∈ Text.percentDecode "about:#a%5B%5db".toList) ∧
      ∃ markup,
        ((visit {} (.mk .link [("type", .value (.text "about")),
          ("path", .value (.text "#a%5B%5db"))] [])).runFrom {}).1 =
            .ok (.text ("[url=" ++ markup)) ∧
        (markup.toList.takeWhile (· != ']') = "about:#a[]b".toList ↔
          ¬(isAnchor "about:#a%5B%5db" = true ∧
            ']' ∈ Text.percentDecode "about:#a%5B%5db".toList)) := by
  have hnormal : normalizeAnchor "about:#a%5B%5db" = "about:#a[]b" := by decide +kernel
  have hurl : resolveUrl "about" "#a%5B%5db" "about:#a%5B%5db" = .ok "about:#a[]b" := by
    rw [resolveUrl, if_pos (by decide), hnormal]
  obtain ⟨hbrackets, htag⟩ := resolveUrl_brackets (by decide) (by decide) hurl
  refine ⟨by decide, by decide, hurl, hbrackets ']' (by decide), ?_⟩
  have hparts : linkParts [("type", .value (.text "about")),
      ("path", .value (.text "#a%5B%5db"))] =
        .ok ⟨"about", "#a%5B%5db", "about:#a%5B%5db", false⟩ := rfl
  have hrun : ((visit {} (.mk .link [("type", .value (.text "about")),
      ("path", .value (.text "#a%5B%5db"))] [])).runFrom {}).1 =
        .ok (.text "[url=about:#a[]b]about:#a[]b[/url]") := by
    have htag : linkMarkup ⟨"about", "#a%5B%5db", "about:#a%5B%5db", false⟩ "" = do
        PassM.note (.resolved "about" "about:#a%5B%5db" "about:#a[]b")
        return formatLink "about:#a[]b" "" := by
      rw [linkMarkup, LinkParts.url, hurl]
      rfl
    have hnone : joined [] = pure "" := rfl
    simp only [visit, hparts, PassM.ofMisfit, pure_bind, fragments, hnone, htag]
    rfl
  generalize hresult : (visit {} (.mk .link [("type", .value (.text "about")),
    ("path", .value (.text "#a%5B%5db"))] [])).runFrom {} = result at hrun ⊢
  obtain ⟨outcome, q⟩ := result
  obtain rfl : outcome = _ := hrun
  obtain ⟨markup, hmarkup, hends⟩ := htag {} _ [] {} q _ _ hparts rfl rfl rfl hresult
  exact ⟨markup, congrArg Except.ok hmarkup, hends⟩

/-- A URL can have a bracket that its link has not, and then the tag of the link ends in its
middle. -/
theorem resolveUrl_escapedBracket :
    BracketFree "about" ∧ BracketFree "%5D" ∧ BracketFree "about:%5D" ∧
      resolveUrl "about" "%5D" "about:%5D" = .ok "about:]" ∧ ¬BracketFree "about:]" ∧
      (renderDocument {} (.mk .link [("type", .value (.text "about")),
        ("path", .value (.text "%5D")), ("raw_link", .value (.text "about:%5D"))] [])).1.toOption =
          some "[url=about:]]about:][/url]" := by
  have hnormal : normalizeAnchor "about:%5D" = "about:]" := by decide +kernel
  have hurl : resolveUrl "about" "%5D" "about:%5D" = .ok "about:]" := by
    rw [resolveUrl, if_pos (by decide), hnormal]
  exact ⟨by decide, by decide, by decide, hurl, by decide, by decide +kernel⟩

end ForumMarkup
