import ForumMarkup.Json.Reader
import ForumMarkup.Json.Writer
import ForumMarkup.Proofs.Value.Points
import Mathlib.Data.List.TakeDrop
/-
**The texts and integers of JSON are read back.**

The writer puts a text between quotes and escapes the characters that could not stand there; the
reader undoes the escapes.  An integer is written in decimal digits.  A digit that follows would
be read as part of the integer, but none does: what follows a value is the end of the text, a comma,
a closing bracket or a line feed.

Main definitions:

* `ForumMarkup.Json.endsValue` — what follows a value, so that no more is read as part of it.

Main results:

* `ForumMarkup.Json.escapeChar_cases` — the three ways to write a character;
* `ForumMarkup.Json.textBody_writeText` — **a text is read back**, whatever follows it;
* `ForumMarkup.Json.number_toString` — **an integer is read back** in front of what may follow a
  value.
-/

set_option autoImplicit false

namespace ForumMarkup.Json

/-! ### Texts -/

/-- A character is written in two characters, as the number of a control character, or as
itself. -/
theorem escapeChar_cases (c : Char) :
    (∃ e, escapeChar c = ['\\', e] ∧ shortEscape? e = some c) ∨
    (c.toNat < 0x20 ∧ escapeChar c = '\\' :: 'u' :: Text.lowerHex 4 c.toNat) ∨
    (c ≠ '\x22' ∧ c ≠ '\\' ∧ 0x20 ≤ c.toNat ∧ escapeChar c = [c]) := by
  by_cases hshort : c ∈ ['\x22', '\\', '\n', '\r', '\t', '\x08', '\x0c']
  · left
    simp only [List.mem_cons, List.not_mem_nil, or_false] at hshort
    rcases hshort with rfl | rfl | rfl | rfl | rfl | rfl | rfl <;> exact ⟨_, rfl, rfl⟩
  · right
    simp only [List.mem_cons, List.not_mem_nil, or_false, not_or] at hshort
    obtain ⟨hquote, hslash, hn, hr, ht, hb, hf⟩ := hshort
    by_cases hlow : c.toNat < 0x20
    · exact .inl ⟨hlow, by simp [escapeChar, hquote, hslash, hn, hr, ht, hb, hf, hlow]⟩
    · exact .inr ⟨hquote, hslash, Nat.le_of_not_lt hlow,
        by simp [escapeChar, hquote, hslash, hn, hr, ht, hb, hf, hlow]⟩

/-- A control character is written in four digits, which denote its number. -/
theorem hexQuad?_lowerHex {n : Nat} (h : n < 0x20) :
    ∃ a b c d, Text.lowerHex 4 n = [a, b, c, d] ∧ hexQuad? a b c d = some n := by
  have hall : ∀ n < 0x20, hexQuad? '0' '0' (Text.hexDigit (n / 16)) (Text.hexDigit (n % 16)) =
      some n := by decide
  refine ⟨'0', '0', Text.hexDigit (n / 16), Text.hexDigit (n % 16), ?_, hall n h⟩
  have h1 : n / 16 / 16 = 0 := by omega
  have h2 : n / 16 % 16 = n / 16 := by omega
  have hzero : Text.hexDigit 0 = '0' := rfl
  simp [Text.lowerHex, h1, h2, hzero]

section

variable (opening : List Char) {rest : List Char}

theorem textBody_shortEscape {e c : Char} (he : shortEscape? e = some c) (rest : List Char) :
    textBody opening ('\\' :: e :: rest) =
      (textBody opening rest).map fun p => (.char c :: p.1, p.2) := by
  have hu : e ≠ 'u' := by
    rintro rfl
    cases he
  rw [textBody.eq_def]
  simp only [Char.reduceBEq, Bool.false_eq_true, if_false, if_true]
  split
  · rename_i heq
    cases heq
  · rename_i heq
    exact absurd (List.cons.inj heq).1 hu
  · rename_i heq
    exact absurd (List.cons.inj heq).1 hu
  · rename_i heq
    obtain ⟨rfl, rfl⟩ := List.cons.inj heq
    rw [he]
    cases textBody opening rest <;> rfl

theorem textBody_unicodeEscape {c : Char} (hc : c.toNat < 0x20) (hrest : rest ≠ []) :
    textBody opening ('\\' :: 'u' :: Text.lowerHex 4 c.toNat ++ rest) =
      (textBody opening rest).map fun p => (.char c :: p.1, p.2) := by
  obtain ⟨next, after, rfl⟩ := List.exists_cons_of_ne_nil hrest
  obtain ⟨h₁, h₂, h₃, h₄, hhex, hquad⟩ := hexQuad?_lowerHex hc
  have hpair : ¬(0xD800 ≤ c.toNat ∧ c.toNat < 0xDC00) := by omega
  rw [hhex]
  simp only [List.cons_append, List.nil_append]
  rw [textBody.eq_def]
  simp only [Char.reduceBEq, Bool.false_eq_true, if_false, if_true, hquad, hpair,
    Text.Point.ofNat_toNat]
  -- What follows is read on its own, also when it is an escape that could complete a pair.
  split
  · cases textBody opening _ <;> rfl
  · cases textBody opening _ <;> rfl

theorem textBody_plain {c : Char} (hquote : c ≠ '\x22') (hslash : c ≠ '\\')
    (hc : 0x20 ≤ c.toNat) (rest : List Char) :
    textBody opening (c :: rest) = (textBody opening rest).map fun p => (.char c :: p.1, p.2) := by
  rw [textBody.eq_def]
  simp only [beq_iff_eq, if_neg hquote, if_neg hslash, if_neg (Nat.not_lt.2 hc)]
  cases textBody opening rest <;> rfl

/-- A character is read back.  Something has to follow it, as a quote does in a text: the escape of
a control character is not read at the very end. -/
theorem textBody_escapeChar (c : Char) (hrest : rest ≠ []) :
    textBody opening (escapeChar c ++ rest) =
      (textBody opening rest).map fun p => (.char c :: p.1, p.2) := by
  rcases escapeChar_cases c with ⟨e, heq, he⟩ | ⟨hc, heq⟩ | ⟨hquote, hslash, hc, heq⟩
  · rw [heq]
    exact textBody_shortEscape opening he rest
  · rw [heq]
    exact textBody_unicodeEscape opening hc hrest
  · rw [heq]
    exact textBody_plain opening hquote hslash hc rest

/-- **A text is read back**, whatever follows it. -/
theorem textBody_writeText (s : String) (rest : List Char) :
    textBody opening (s.toList.flatMap escapeChar ++ '\x22' :: rest) =
      .ok (Text.pointsOf s, rest) := by
  rw [Text.pointsOf]
  induction s.toList with
  | nil =>
      rw [List.flatMap_nil, List.nil_append, textBody.eq_def]
      rfl
  | cons c cs ih =>
      rw [List.flatMap_cons, List.append_assoc, textBody_escapeChar opening c (by simp), ih]
      rfl

end

theorem writeText_append (s : String) (rest : List Char) :
    writeText s ++ rest = '\x22' :: (s.toList.flatMap escapeChar ++ '\x22' :: rest) := by
  simp [writeText]

/-! ### Decimal digits -/

theorem isDigit_of_mem_toDigits {n : Nat} {c : Char} (h : c ∈ Nat.toDigits 10 n) :
    isDigit c = true := by
  have hc : c.isDigit = true := Nat.isDigit_of_mem_toDigits (by decide) (by decide) h
  have h0 : '0'.toNat = 48 := rfl
  have h9 : '9'.toNat = 57 := rfl
  rw [Char.isDigit_iff_toNat, h0, h9] at hc
  simp [isDigit, hc]

theorem digitsValue_toDigits (n : Nat) : digitsValue (Nat.toDigits 10 n) = n := by
  have h0 : '0'.toNat = 48 := rfl
  have h := Nat.ofDigitChars_toDigits (b := 10) (n := n) (by decide) (by decide)
  rw [Nat.ofDigitChars, h0] at h
  simpa only [digitsValue, Nat.mul_comm] using h

/-- A number has a first digit. -/
theorem exists_toDigits_eq_cons (n : Nat) :
    ∃ d ds, Nat.toDigits 10 n = d :: ds ∧ isDigit d = true := by
  obtain ⟨d, ds, hd⟩ := List.exists_cons_of_length_pos (Nat.length_toDigits_pos (b := 10) (n := n))
  exact ⟨d, ds, hd, isDigit_of_mem_toDigits (n := n) (hd ▸ List.mem_cons_self)⟩

/-- The first digit of a number is a zero only if the number is zero. -/
theorem head?_toDigits {n : Nat} (h : n ≠ 0) : (Nat.toDigits 10 n).head? ≠ some '0' := by
  induction n using Nat.strongRecOn with
  | ind n ih =>
      by_cases hn : n < 10
      · have hall : ∀ n < 10, n ≠ 0 → [Nat.digitChar n].head? ≠ some '0' := by decide
        rw [Nat.toDigits_of_lt_base hn]
        exact hall n hn h
      · have hten : 10 ≤ n := by omega
        have hdiv : n / 10 ≠ 0 := by omega
        have hlt : n / 10 < n := by omega
        obtain ⟨d, ds, hd, -⟩ := exists_toDigits_eq_cons (n / 10)
        have hfirst := ih _ hlt hdiv
        rw [Nat.toDigits_of_base_le (by decide) hten, hd]
        rwa [hd] at hfirst

/-! ### Integers -/

/-- Whether a text is one that may follow a value: nothing in it can be read as part of the
value. -/
def endsValue : List Char → Bool
  | [] => true
  | c :: _ => c == ',' || c == ']' || c == '\x7d' || c == '\n'

section

variable {rest : List Char} (hrest : endsValue rest = true)

include hrest in
theorem takeWhile_isDigit : rest.takeWhile isDigit = [] := by
  cases rest with
  | nil => rfl
  | cons c rest =>
      simp only [endsValue, Bool.or_eq_true, beq_iff_eq] at hrest
      rcases hrest with ((rfl | rfl) | rfl) | rfl <;> rfl

include hrest in
theorem fractionDigits?_of_endsValue : fractionDigits? rest = none := by
  unfold fractionDigits?
  split
  · simp [endsValue] at hrest
  · rfl

include hrest in
theorem exponent?_of_endsValue : exponent? rest = none := by
  cases rest with
  | nil => rfl
  | cons c rest =>
      simp only [endsValue, Bool.or_eq_true, beq_iff_eq] at hrest
      rcases hrest with ((rfl | rfl) | rfl) | rfl <;> rfl

include hrest in
theorem span_toDigits (n : Nat) :
    (Nat.toDigits 10 n ++ rest).span isDigit = (Nat.toDigits 10 n, rest) := by
  have hdigits : ∀ c ∈ Nat.toDigits 10 n, isDigit c = true := fun c => isDigit_of_mem_toDigits
  have hstop := takeWhile_isDigit hrest
  have hdrop : rest.dropWhile isDigit = rest := by
    have happend := List.takeWhile_append_dropWhile (p := isDigit) (l := rest)
    rwa [hstop] at happend
  rw [List.span_eq_takeWhile_dropWhile, List.takeWhile_append_of_pos hdigits,
    List.dropWhile_append_of_pos hdigits, hstop, hdrop, List.append_nil]

include hrest in
theorem wholeDigits?_toDigits (n : Nat) :
    wholeDigits? (Nat.toDigits 10 n ++ rest) = some (Nat.toDigits 10 n, rest) := by
  by_cases hn : n = 0
  · subst hn
    rfl
  · have hspan := span_toDigits hrest n
    have hfirst := head?_toDigits hn
    obtain ⟨d, ds, hd, hdigit⟩ := exists_toDigits_eq_cons n
    rw [hd, List.cons_append] at hspan ⊢
    have hzero : d ≠ '0' := by simpa [hd] using hfirst
    rw [wholeDigits?.eq_def]
    split
    · rename_i heq
      exact absurd (List.cons.inj heq).1 hzero
    · rename_i heq
      obtain ⟨rfl, rfl⟩ := List.cons.inj heq
      rw [if_pos hdigit, hspan]
    · rename_i heq
      cases heq

theorem toList_toString_ofNat (m : Nat) : (toString (Int.ofNat m)).toList = Nat.toDigits 10 m :=
  Nat.toList_repr

theorem toList_toString_negSucc (m : Nat) :
    (toString (Int.negSucc m)).toList = '-' :: Nat.toDigits 10 (m + 1) := by
  have htext : toString (Int.negSucc m) = "-" ++ Nat.repr (m + 1) := rfl
  rw [htext, String.toList_append, Nat.toList_repr]
  rfl

/-- An integer is written as a digit and more digits, with a minus sign in front if it is
negative. -/
theorem toList_toString_cases (n : Int) :
    (∃ d ds, (toString n).toList = d :: ds ∧ isDigit d = true) ∨
      ∃ d ds, (toString n).toList = '-' :: d :: ds ∧ isDigit d = true := by
  cases n with
  | ofNat m =>
      obtain ⟨d, ds, hd, hdigit⟩ := exists_toDigits_eq_cons m
      exact .inl ⟨d, ds, (toList_toString_ofNat m).trans hd, hdigit⟩
  | negSucc m =>
      obtain ⟨d, ds, hd, hdigit⟩ := exists_toDigits_eq_cons (m + 1)
      exact .inr ⟨d, ds, (toList_toString_negSucc m).trans (congrArg _ hd), hdigit⟩

theorem toDigits_ne_minus (m : Nat) (rest rest' : List Char) :
    Nat.toDigits 10 m ++ rest ≠ '-' :: rest' := by
  intro h
  obtain ⟨d, ds, hd, hdigit⟩ := exists_toDigits_eq_cons m
  rw [hd, List.cons_append] at h
  rw [(List.cons.inj h).1] at hdigit
  cases hdigit

include hrest in
/-- **An integer is read back** in front of what may follow a value. -/
theorem number_toString (n : Int) :
    number none ((toString n).toList ++ rest) = .ok (.int n, rest) := by
  have hfraction := fractionDigits?_of_endsValue hrest
  have hexponent := exponent?_of_endsValue hrest
  cases n with
  | ofNat m =>
      rw [toList_toString_ofNat, number]
      · simp [wholeDigits?_toDigits hrest, hfraction, hexponent, tooLong?, digitsValue_toDigits]
      · exact fun rest' => toDigits_ne_minus m rest rest'
  | negSucc m =>
      rw [toList_toString_negSucc, List.cons_append, number]
      simp [wholeDigits?_toDigits hrest, hfraction, hexponent, tooLong?, digitsValue_toDigits]
      omega

end

/-- A value that begins as an integer does is a number. -/
theorem value_toString (limit? : Option Nat) (fuel : Nat) (n : Int) (rest : List Char) :
    value limit? (fuel + 1) ((toString n).toList ++ rest) =
      number limit? ((toString n).toList ++ rest) := by
  rcases toList_toString_cases n with ⟨d, ds, hd, hdigit⟩ | ⟨d, ds, hd, hdigit⟩
  · rw [hd, List.cons_append, value.eq_def]
    simp only
    -- Each of the other cases has another character in the place of the digit.
    split <;> first
      | rfl
      | (rename_i heq; rw [(List.cons.inj heq).1] at hdigit; cases hdigit)
  · rw [hd, List.cons_append, List.cons_append, value.eq_def]
    simp only
    split <;> first
      | rfl
      | (rename_i heq; cases heq)
      | (rename_i heq; rw [(List.cons.inj (List.cons.inj heq).2).1] at hdigit; cases hdigit)

end ForumMarkup.Json
