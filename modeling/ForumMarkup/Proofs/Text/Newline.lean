import ForumMarkup.Text.Newline
import Mathlib.Data.List.TakeDrop
/-
**Plain line ends.**

Writing the line ends of a text as line feeds changes nothing else, so what stands in front of the
first line end, and what begins with something else, is found again in the text with plain line
ends.

Main results:

* `ForumMarkup.Text.plainNewlines_cons`, `ForumMarkup.Text.of_plainNewlines_eq_cons` — a character
  that ends no line, in front of a text before and after;
* `ForumMarkup.Text.dropWhile_plainNewlines`, `ForumMarkup.Text.takeWhile_plainNewlines` — what
  stands in front, up to a character of a class.
-/

set_option autoImplicit false

namespace ForumMarkup.Text

theorem plainNewlines_cons {c : Char} (h : c ≠ '\r') (cs : List Char) :
    plainNewlines (c :: cs) = c :: plainNewlines cs := by
  rw [plainNewlines.eq_def]
  simp only [beq_iff_eq, if_neg h]

/-- A carriage return becomes a line feed, together with a line feed behind it. -/
theorem exists_plainNewlines_return (cs : List Char) :
    ∃ rest, plainNewlines ('\r' :: cs) = '\n' :: plainNewlines rest ∧
      (cs = '\n' :: rest ∨ cs = rest) := by
  rw [plainNewlines.eq_def]
  simp only [beq_self_eq_true, if_true]
  split
  · exact ⟨_, rfl, .inl rfl⟩
  · exact ⟨_, rfl, .inr rfl⟩

/-- A text that begins with a line end does so before and after, and otherwise begins with the same
character. -/
theorem of_plainNewlines_eq_cons {c : Char} (hc : c ≠ '\n') {cs rest : List Char}
    (h : plainNewlines cs = c :: rest) :
    ∃ before, cs = c :: before ∧ rest = plainNewlines before := by
  cases cs with
  | nil => cases h
  | cons d cs =>
      by_cases hd : d = '\r'
      · obtain ⟨before, heq, -⟩ := exists_plainNewlines_return cs
        rw [hd, heq] at h
        exact absurd (List.cons.inj h).1.symm hc
      · rw [plainNewlines_cons hd] at h
        obtain ⟨rfl, rfl⟩ := List.cons.inj h
        exact ⟨cs, rfl, rfl⟩

theorem plainNewlines_append {w : List Char} (h : ∀ c ∈ w, c ≠ '\r') (cs : List Char) :
    plainNewlines (w ++ cs) = w ++ plainNewlines cs := by
  induction w with
  | nil => rfl
  | cons c w ih =>
      have hw : ∀ c ∈ w, c ≠ '\r' := fun c hc => h c (List.mem_cons_of_mem _ hc)
      rw [List.cons_append, plainNewlines_cons (h c List.mem_cons_self), ih hw, List.cons_append]

/-- A word in front of the text with plain line ends is one in front of the text. -/
theorem of_plainNewlines_eq_append {w : List Char} (h : ∀ c ∈ w, c ≠ '\n') {cs rest : List Char}
    (heq : plainNewlines cs = w ++ rest) :
    ∃ before, cs = w ++ before ∧ rest = plainNewlines before := by
  induction w generalizing cs with
  | nil => exact ⟨cs, rfl, heq.symm⟩
  | cons c w ih =>
      obtain ⟨cs', rfl, heq'⟩ := of_plainNewlines_eq_cons (h c List.mem_cons_self) heq
      obtain ⟨before, rfl, hrest⟩ := ih (fun c hc => h c (List.mem_cons_of_mem _ hc)) heq'.symm
      exact ⟨before, rfl, hrest⟩

/-- Whether a text begins with a given character shows in the text with plain line ends. -/
theorem head_cases {c : Char} (hr : c ≠ '\r') (hn : c ≠ '\n') (cs : List Char) :
    (∃ rest, cs = c :: rest ∧ plainNewlines cs = c :: plainNewlines rest) ∨
      ((∀ rest, cs ≠ c :: rest) ∧ ∀ rest, plainNewlines cs ≠ c :: rest) := by
  by_cases h : ∃ rest, cs = c :: rest
  · obtain ⟨rest, rfl⟩ := h
    exact .inl ⟨rest, rfl, plainNewlines_cons hr rest⟩
  · refine .inr ⟨fun rest heq => h ⟨rest, heq⟩, fun rest heq => ?_⟩
    obtain ⟨before, hbefore, -⟩ := of_plainNewlines_eq_cons hn heq
    exact h ⟨before, hbefore⟩

theorem plainNewlines_eq_nil {cs : List Char} : plainNewlines cs = [] ↔ cs = [] := by
  constructor
  · intro h
    cases cs with
    | nil => rfl
    | cons d cs =>
        by_cases hd : d = '\r'
        · obtain ⟨before, heq, -⟩ := exists_plainNewlines_return cs
          rw [hd, heq] at h
          cases h
        · rw [plainNewlines_cons hd] at h
          cases h
  · rintro rfl
    rfl

section

variable {p : Char → Bool}

/-- A class of characters that does not tell line ends apart is dropped alike. -/
theorem dropWhile_plainNewlines (hp : p '\r' = p '\n') (cs : List Char) :
    (plainNewlines cs).dropWhile p = plainNewlines (cs.dropWhile p) := by
  induction cs using plainNewlines.induct with
  | case1 => rfl
  | case2 c hc rest ih =>
      obtain rfl := eq_of_beq hc
      cases h : p '\n' <;> simp [plainNewlines, hp, h, ih]
  | case3 c hc cs hrest ih =>
      obtain rfl := eq_of_beq hc
      cases h : p '\n' <;> simp [plainNewlines, hp, h, ih]
  | case4 c cs hc ih =>
      have hne : c ≠ '\r' := fun e => hc (beq_iff_eq.2 e)
      rw [plainNewlines_cons hne]
      cases h : p c <;> simp [plainNewlines_cons hne, h, ih]

/-- Characters that end no line are taken alike. -/
theorem takeWhile_plainNewlines (hr : p '\r' = false) (hn : p '\n' = false) (cs : List Char) :
    (plainNewlines cs).takeWhile p = cs.takeWhile p := by
  induction cs with
  | nil => rfl
  | cons c cs ih =>
      by_cases hc : c = '\r'
      · obtain ⟨rest, heq, -⟩ := exists_plainNewlines_return cs
        rw [hc, heq]
        simp [hr, hn]
      · rw [plainNewlines_cons hc]
        cases h : p c <;> simp [h, ih]

end

theorem span_plainNewlines {p : Char → Bool} (hr : p '\r' = false) (hn : p '\n' = false)
    (cs : List Char) :
    (plainNewlines cs).span p = ((cs.span p).1, plainNewlines (cs.span p).2) := by
  simp only [List.span_eq_takeWhile_dropWhile, takeWhile_plainNewlines hr hn,
    dropWhile_plainNewlines (hr.trans hn.symm)]

end ForumMarkup.Text
