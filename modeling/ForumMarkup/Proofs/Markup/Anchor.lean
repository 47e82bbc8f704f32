import ForumMarkup.Markup.Link
import ForumMarkup.Proofs.Text.Percent
/-
**The one form of an anchor.**

The target of an anchor may come in any spelling.  It is written in one form: its escapes are
resolved, the stray slash in front of a fragment is taken out, and what has to be escaped is escaped
again.  Taking out the slash and escaping can change places, since the characters in question are
safe; so the form is the encoded form of a text, and that text is all that it depends on.

Main definitions:

* `ForumMarkup.IsAnchorChar` — the characters of an anchor in its form, escapes apart;
* `ForumMarkup.AnchorNormal` — what is said of the form of an anchor.

Main results:

* `ForumMarkup.toList_normalizeAnchor`, `ForumMarkup.percentDecode_normalizeAnchor` — the form of a
  target is the encoded form of the text that it stands for, without a stray slash;
* `ForumMarkup.mem_normalizeAnchor_iff`, `ForumMarkup.bracket_mem_normalizeAnchor_iff` — which
  characters are in it;
* `ForumMarkup.anchorNormal` — **the form of an anchor is canonical**.
-/

set_option autoImplicit false

namespace ForumMarkup

/-! ### The stray slash -/

theorem dropStraySlash_append (rest : List Char) :
    dropStraySlash (strayAnchor ++ rest) = "about:#".toList ++ rest := by
  have hstray : strayAnchor.isPrefixOf (strayAnchor ++ rest) = true :=
    List.isPrefixOf_iff_prefix.2 (List.prefix_append _ _)
  rw [dropStraySlash, if_pos hstray]
  rfl

theorem dropStraySlash_of_not {cs : List Char} (h : ¬strayAnchor <+: cs) :
    dropStraySlash cs = cs :=
  if_neg (mt List.isPrefixOf_iff_prefix.1 h)

/-- What begins with the scheme and a fragment does not begin with a stray slash. -/
theorem not_strayAnchor_prefix (rest : List Char) : ¬strayAnchor <+: "about:#".toList ++ rest := by
  intro h
  have hlength : strayAnchor.length ≤ ("about:#".toList ++ rest).length := h.length_le
  have heq := List.prefix_iff_eq_take.1 h
  have hseven := congrArg (fun cs : List Char => cs[6]?) heq
  simp [strayAnchor] at hseven

/-- No stray slash is left. -/
theorem not_prefix_dropStraySlash (cs : List Char) : ¬strayAnchor <+: dropStraySlash cs := by
  by_cases h : strayAnchor <+: cs
  · obtain ⟨rest, rfl⟩ := h
    rw [dropStraySlash_append]
    exact not_strayAnchor_prefix rest
  · rwa [dropStraySlash_of_not h]

theorem mem_dropStraySlash_iff {c : Char} (h : c ≠ '/') (cs : List Char) :
    c ∈ dropStraySlash cs ↔ c ∈ cs := by
  by_cases hstray : strayAnchor <+: cs
  · obtain ⟨rest, rfl⟩ := hstray
    rw [dropStraySlash_append]
    simp [strayAnchor, h]
  · rw [dropStraySlash_of_not hstray]

theorem percent_notMem_urlSafe : '%' ∉ urlSafe := by decide

theorem isSafe_of_mem_strayAnchor : ∀ c ∈ strayAnchor, Text.isSafe urlSafe c = true :=
  List.all_eq_true.1 (by decide)

/-- The slash may be taken out before or after encoding. -/
theorem dropStraySlash_percentEncode (cs : List Char) :
    dropStraySlash (Text.percentEncode urlSafe cs) =
      Text.percentEncode urlSafe (dropStraySlash cs) := by
  have hscheme : ∀ c ∈ "about:#".toList, Text.isSafe urlSafe c = true :=
    List.all_eq_true.1 (by decide)
  by_cases h : strayAnchor <+: cs
  · obtain ⟨rest, rfl⟩ := h
    rw [Text.percentEncode_append_of_isSafe isSafe_of_mem_strayAnchor, dropStraySlash_append,
      dropStraySlash_append, Text.percentEncode_append_of_isSafe hscheme]
  · rw [dropStraySlash_of_not h, dropStraySlash_of_not]
    rwa [Text.prefix_percentEncode_iff percent_notMem_urlSafe isSafe_of_mem_strayAnchor]

/-! ### The form of a target -/

/-- The form of a target is the encoded form of what it stands for, without a stray slash. -/
theorem toList_normalizeAnchor (target : String) :
    (normalizeAnchor target).toList =
      Text.percentEncode urlSafe (dropStraySlash (Text.percentDecode target.toList)) := by
  rw [normalizeAnchor, String.toList_ofList, dropStraySlash_percentEncode]

/-- The form of a target stands for what the target stands for, without a stray slash. -/
theorem percentDecode_normalizeAnchor (target : String) :
    Text.percentDecode (normalizeAnchor target).toList =
      dropStraySlash (Text.percentDecode target.toList) := by
  rw [toList_normalizeAnchor, Text.percentDecode_percentEncode percent_notMem_urlSafe]

/-- Targets that stand for the same text have the same form. -/
theorem normalizeAnchor_eq_of_percentDecode {target target' : String}
    (h : dropStraySlash (Text.percentDecode target.toList) =
      dropStraySlash (Text.percentDecode target'.toList)) :
    normalizeAnchor target = normalizeAnchor target' := by
  rw [← String.toList_inj, toList_normalizeAnchor, toList_normalizeAnchor, h]

/-- A safe character that no escape is made of is in the form of a target exactly when it is in the
text that the target stands for. -/
theorem mem_normalizeAnchor_iff {c : Char} (hsafe : c ∈ urlSafe) (hslash : c ≠ '/')
    (hhex : ¬Text.IsUpperHex c) (target : String) :
    c ∈ (normalizeAnchor target).toList ↔ c ∈ Text.percentDecode target.toList := by
  have hsafe' : Text.isSafe urlSafe c = true := by simp [Text.isSafe, hsafe]
  have hpercent : c ≠ '%' := by
    rintro rfl
    exact percent_notMem_urlSafe hsafe
  rw [toList_normalizeAnchor, Text.mem_percentEncode_iff hsafe' hpercent hhex,
    mem_dropStraySlash_iff hslash]

/-- The form of a target has the brackets of the text that the target stands for. -/
theorem bracket_mem_normalizeAnchor_iff {bracket : Char} (h : bracket ∈ ['[', ']'])
    (target : String) :
    bracket ∈ (normalizeAnchor target).toList ↔ bracket ∈ Text.percentDecode target.toList := by
  rcases List.mem_pair.1 h with rfl | rfl
  · exact mem_normalizeAnchor_iff (by decide) (by decide) (by decide) target
  · exact mem_normalizeAnchor_iff (by decide) (by decide) (by decide) target

/-! ### The form of an anchor -/

/-- The characters of an anchor in its form, escapes apart: ASCII letters and digits, three marks,
and those that stand for themselves in a target. -/
def IsAnchorChar (c : Char) : Prop :=
  c.isAlphanum = true ∨ c ∈ ['_', '.', '-'] ∨ c ∈ urlSafe

theorem isAnchorChar_of_isSafe {c : Char} (h : Text.isSafe urlSafe c = true) : IsAnchorChar c := by
  have htilde : '~' ∈ urlSafe := by decide
  have halphanum : (48 ≤ c.toNat ∧ c.toNat ≤ 57) ∨ (65 ≤ c.toNat ∧ c.toNat ≤ 90) ∨
      (97 ≤ c.toNat ∧ c.toNat ≤ 122) → c.isAlphanum = true := by
    have hranges : c.isAlphanum = (decide (c.val ≥ 65 ∧ c.val ≤ 90) ||
        (c.val ≥ 97 && c.val ≤ 122) || (c.val ≥ 48 && c.val ≤ 57)) := rfl
    simp only [hranges, Bool.or_eq_true, decide_eq_true_eq, Char.toNat, UInt32.le_iff_toNat_le,
      ge_iff_le, Bool.and_eq_true]
    rintro (h | h | h)
    · exact .inr h
    · exact .inl (.inl h)
    · exact .inl (.inr h)
  simp only [Text.isSafe, Text.isUnreserved, Bool.or_eq_true, Bool.and_eq_true, decide_eq_true_eq,
    beq_iff_eq, List.contains_iff_mem] at h
  rcases h with (((((((h | h) | h) | rfl) | rfl) | rfl) | rfl) | h)
  · exact .inl (halphanum (.inl h))
  · exact .inl (halphanum (.inr (.inl h)))
  · exact .inl (halphanum (.inr (.inr h)))
  · exact .inr (.inl (by decide))
  · exact .inr (.inl (by decide))
  · exact .inr (.inl (by decide))
  · exact .inr (.inr htilde)
  · exact .inr (.inr h)

/-- What is said of the form of an anchor. -/
structure AnchorNormal (target : String) : Prop where
  /-- It is an anchor. -/
  isAnchor : isAnchor (normalizeAnchor target) = true
  /-- It has no stray slash. -/
  noStraySlash : ¬"about:/#".toList <+: (normalizeAnchor target).toList
  /-- It consists of the characters of anchors and of escapes in upper case. -/
  characters : Text.PercentNormal IsAnchorChar (normalizeAnchor target).toList
  /-- It is its own form. -/
  fixed : normalizeAnchor (normalizeAnchor target) = normalizeAnchor target
  /-- It stands for the text that the target stands for. -/
  decoded : ¬"about:/#".toList <+: Text.percentDecode target.toList →
    Text.percentDecode (normalizeAnchor target).toList = Text.percentDecode target.toList
  /-- If that text begins with a stray slash, it stands for the text without the slash. -/
  decodedStray : ∀ rest, Text.percentDecode target.toList = "about:/#".toList ++ rest →
    Text.percentDecode (normalizeAnchor target).toList = "about:#".toList ++ rest
  /-- If the target is a text without escapes, all spellings of it have this form. -/
  spellings : '%' ∉ target.toList → ∀ spelled, Text.PercentSpelling target.toList spelled →
    normalizeAnchor (String.ofList spelled) = normalizeAnchor target

/-- The scheme is there in what an anchor stands for. -/
theorem exists_percentDecode_eq {target : String} (h : isAnchor target = true) :
    ∃ rest, Text.percentDecode target.toList = "about:".toList ++ rest := by
  obtain ⟨rest, hrest⟩ := List.isPrefixOf_iff_prefix.1 h
  have hscheme : Text.StandsFor anchorScheme.toList anchorScheme.toList :=
    .plains (List.all_eq_true.1 (by decide)) (by decide)
  exact ⟨_, by rw [← hrest, Text.percentDecode_append hscheme]; rfl⟩

/-- It is there without the stray slash as well. -/
theorem exists_dropStraySlash_eq (rest : List Char) :
    ∃ rest', dropStraySlash ("about:".toList ++ rest) = "about:".toList ++ rest' := by
  by_cases h : strayAnchor <+: "about:".toList ++ rest
  · obtain ⟨others, hothers⟩ := h
    exact ⟨'#' :: others, by rw [← hothers, dropStraySlash_append]; rfl⟩
  · exact ⟨rest, dropStraySlash_of_not h⟩

/-- **The form of an anchor is canonical.** -/
theorem anchorNormal {target : String} (h : isAnchor target = true) : AnchorNormal target where
  isAnchor := by
    obtain ⟨rest, hrest⟩ := exists_percentDecode_eq h
    obtain ⟨rest', hrest'⟩ := exists_dropStraySlash_eq rest
    have hsafe : ∀ c ∈ "about:".toList, Text.isSafe urlSafe c = true :=
      List.all_eq_true.1 (by decide)
    rw [ForumMarkup.isAnchor, toList_normalizeAnchor, hrest, hrest',
      Text.percentEncode_append_of_isSafe hsafe]
    exact List.isPrefixOf_iff_prefix.2 (List.prefix_append _ _)
  noStraySlash := by
    have hspelled : "about:/#".toList = strayAnchor := rfl
    rw [toList_normalizeAnchor, hspelled,
      Text.prefix_percentEncode_iff percent_notMem_urlSafe isSafe_of_mem_strayAnchor]
    exact not_prefix_dropStraySlash _
  characters := by
    rw [toList_normalizeAnchor]
    exact Text.percentNormal_percentEncode (fun _ => isAnchorChar_of_isSafe) _
  fixed := by
    refine normalizeAnchor_eq_of_percentDecode ?_
    rw [percentDecode_normalizeAnchor, dropStraySlash_of_not (not_prefix_dropStraySlash _)]
  decoded hstray := by rw [percentDecode_normalizeAnchor, dropStraySlash_of_not hstray]
  decodedStray rest hrest := by
    rw [percentDecode_normalizeAnchor, hrest]
    exact dropStraySlash_append rest
  spellings hplain spelled hspelled := by
    -- The text itself is one of its spellings, and they all stand for it.
    refine normalizeAnchor_eq_of_percentDecode ?_
    rw [String.toList_ofList, Text.percentDecode_of_spelling hspelled,
      Text.percentDecode_of_spelling (.refl hplain)]

/-- The theorem at an anchor with a stray slash, escapes in both cases, a truncated one, one that is
none and bytes that are no text. -/
theorem anchorNormal_escapes :
    isAnchor "about:/#M%c3%BCller ü%zz%ff%5d%4" = true ∧
      AnchorNormal "about:/#M%c3%BCller ü%zz%ff%5d%4" ∧
      normalizeAnchor "about:/#M%c3%BCller ü%zz%ff%5d%4" =
        "about:#M%C3%BCller%20%C3%BC%25zz%EF%BF%BD]%254" :=
  ⟨by decide, anchorNormal (by decide), by decide +kernel⟩

end ForumMarkup
