import ForumMarkup.Proofs.Text.Utf8
import ForumMarkup.Text.Percent
import Mathlib.Data.List.Forall2
import Mathlib.Tactic.SplitIfs
/-
**Percent encoding is read back.**

A text can be spelled in many ways: each of its characters stands for itself, or the bytes of the
character are escaped, with digits in either case.  All spellings are read as the text, and the
encoded form of a text is one of them.  A percent sign has to be escaped, since what follows it
could make it an escape.

Decoding works on runs of ASCII characters, and escapes of one character may lie in front of those
of the next.  What makes it local is that a whole number of characters at the beginning of a run can
be taken off, whatever the rest of the run comes to.

Main definitions:

* `ForumMarkup.Text.IsEscape` — a byte, written as an escape;
* `ForumMarkup.Text.PercentSpelling` — the spellings of a text;
* `ForumMarkup.Text.StandsFor` — a run of characters that begins with a whole number of characters;
* `ForumMarkup.Text.IsUpperHex`, `ForumMarkup.Text.PercentNormal` — texts of safe characters and of
  escapes in upper case.

Main results:

* `ForumMarkup.Text.percentDecode_append` — **characters at the beginning of a text are decoded by
  themselves**;
* `ForumMarkup.Text.percentDecode_of_spelling` — all spellings of a text are read as the text;
* `ForumMarkup.Text.percentDecode_percentEncode` — **the encoded form of a text is read as the
  text**;
* `ForumMarkup.Text.percentNormal_percentEncode` — the characters of an encoded form;
* `ForumMarkup.Text.mem_percentEncode_iff`, `ForumMarkup.Text.prefix_percentEncode_iff` — safe
  characters are neither added nor lost, and stay where they are at the beginning.
-/

set_option autoImplicit false

namespace ForumMarkup.Text

/-! ### Bytes of texts, read leniently -/

theorem utf8DecodeLenient_append (cs : List Char) (bytes : List UInt8) :
    utf8DecodeLenient (utf8Encode cs ++ bytes) = cs ++ utf8DecodeLenient bytes := by
  induction cs with
  | nil => rfl
  | cons c cs ih =>
      rw [utf8DecodeLenient, utf8DecodeLenient] at ih
      rw [utf8Encode, List.flatMap_cons, ← utf8Encode, List.append_assoc, utf8DecodeLenient,
        utf8Split_utf8Bytes, List.map_cons, ih]
      rfl

theorem utf8Bytes_of_isAscii {c : Char} (h : isAscii c = true) :
    utf8Bytes c = [UInt8.ofNat c.toNat] := by
  have hlt : c.toNat < 0x80 := of_decide_eq_true h
  simp only [utf8Bytes, if_pos hlt]

/-! ### Escapes -/

theorem isAscii_of_hexValue? {c : Char} {n : Nat} (h : hexValue? c = some n) :
    isAscii c = true := by
  refine decide_eq_true ?_
  simp only [hexValue?] at h
  split at h
  · omega
  · split at h
    · omega
    · split at h
      · omega
      · cases h

theorem hexValue?_upperHexDigit {n : Nat} (h : n < 16) : hexValue? (upperHexDigit n) = some n := by
  have hall : ∀ n < 16, hexValue? (upperHexDigit n) = some n := by decide
  exact hall n h

/-- A percent sign and the two digits of a byte, in either case. -/
def IsEscape (b : UInt8) (cs : List Char) : Prop :=
  ∃ high low, cs = ['%', high, low] ∧ hexValue? high = some (b.toNat / 16) ∧
    hexValue? low = some (b.toNat % 16)

theorem isEscape_escapeByte (b : UInt8) : IsEscape b (escapeByte b) := by
  have hb : b.toNat < 256 := b.toNat_lt
  exact ⟨_, _, rfl, hexValue?_upperHexDigit (by omega), hexValue?_upperHexDigit (by omega)⟩

theorem IsEscape.isAscii {b : UInt8} {cs : List Char} (h : IsEscape b cs) :
    ∀ c ∈ cs, isAscii c = true := by
  obtain ⟨high, low, rfl, hhigh, hlow⟩ := h
  simp only [List.forall_mem_cons]
  exact ⟨rfl, isAscii_of_hexValue? hhigh, isAscii_of_hexValue? hlow, List.forall_mem_nil _⟩

theorem unescapeRun_escape {b : UInt8} {cs : List Char} (h : IsEscape b cs) (rest : List Char) :
    unescapeRun (cs ++ rest) = b :: unescapeRun rest := by
  obtain ⟨high, low, rfl, hhigh, hlow⟩ := h
  have hvalue : UInt8.ofNat (b.toNat / 16 * 16 + b.toNat % 16) = b := by
    rw [Nat.div_add_mod' b.toNat 16]
    exact UInt8.ofNat_toNat
  simp only [List.cons_append, List.nil_append]
  rw [unescapeRun]
  simp only [hhigh, hlow, hvalue]

theorem unescapeRun_plain {c : Char} (h : c ≠ '%') (rest : List Char) :
    unescapeRun (c :: rest) = UInt8.ofNat c.toNat :: unescapeRun rest := by
  rw [unescapeRun]
  rintro a b rest' rfl
  exact absurd rfl h

/-! ### Runs -/

/-- A run of ASCII characters that stands for a whole number of characters, in front of any others
of the run. -/
structure StandsFor (run cs : List Char) : Prop where
  isAscii : ∀ c ∈ run, isAscii c = true
  unescapeRun : ∀ rest, unescapeRun (run ++ rest) = utf8Encode cs ++ unescapeRun rest

namespace StandsFor

theorem plain {c : Char} (hascii : Text.isAscii c = true) (h : c ≠ '%') : StandsFor [c] [c] where
  isAscii := by simpa using hascii
  unescapeRun rest := by
    rw [utf8Encode, List.flatMap_singleton, utf8Bytes_of_isAscii hascii]
    exact unescapeRun_plain h rest

/-- Several characters one after the other. -/
theorem append {run run' cs cs' : List Char} (h : StandsFor run cs) (h' : StandsFor run' cs') :
    StandsFor (run ++ run') (cs ++ cs') where
  isAscii c hc := (List.mem_append.1 hc).elim (h.isAscii c) (h'.isAscii c)
  unescapeRun rest := by
    rw [List.append_assoc, h.unescapeRun, h'.unescapeRun, utf8Encode, utf8Encode, utf8Encode,
      List.flatMap_append, List.append_assoc]

/-- ASCII characters without percent signs stand for themselves. -/
theorem plains {cs : List Char} (hascii : ∀ c ∈ cs, Text.isAscii c = true) (h : '%' ∉ cs) :
    StandsFor cs cs := by
  induction cs with
  | nil => exact ⟨List.forall_mem_nil _, fun _ => rfl⟩
  | cons c cs ih =>
      obtain ⟨hc, hcs⟩ := List.forall_mem_cons.1 hascii
      obtain ⟨hne, hnotMem⟩ := not_or.1 (mt List.mem_cons.2 h)
      exact (plain hc (Ne.symm hne)).append (ih hcs hnotMem)

theorem unescapeRun_flatten {bytes : List UInt8} {escapes : List (List Char)}
    (h : List.Forall₂ IsEscape bytes escapes) (rest : List Char) :
    Text.unescapeRun (escapes.flatten ++ rest) = bytes ++ Text.unescapeRun rest := by
  induction h with
  | nil => rfl
  | cons hescape _ ih =>
      rw [List.flatten_cons, List.append_assoc, unescapeRun_escape hescape, ih, List.cons_append]

theorem isAscii_flatten {bytes : List UInt8} {escapes : List (List Char)}
    (h : List.Forall₂ IsEscape bytes escapes) : ∀ c ∈ escapes.flatten, Text.isAscii c = true := by
  induction h with
  | nil => exact List.forall_mem_nil _
  | cons hescape _ ih =>
      intro c hc
      rw [List.flatten_cons] at hc
      exact (List.mem_append.1 hc).elim (hescape.isAscii c) (ih c)

/-- The escapes of all bytes of a character stand for it. -/
theorem escaped {c : Char} {escapes : List (List Char)}
    (h : List.Forall₂ IsEscape (utf8Bytes c) escapes) : StandsFor escapes.flatten [c] where
  isAscii := isAscii_flatten h
  unescapeRun rest := by
    rw [utf8Encode, List.flatMap_singleton]
    exact unescapeRun_flatten h rest

end StandsFor

/-- Characters at the beginning of a run that is being read are decoded by themselves.  `run` is
what has been read after them, latest first. -/
theorem percentDecodeFrom_append {front cs : List Char} (h : StandsFor front cs)
    (run rest : List Char) :
    percentDecodeFrom (run ++ front.reverse) rest = cs ++ percentDecodeFrom run rest := by
  have hrun : ∀ run : List Char, utf8DecodeLenient (unescapeRun (run ++ front.reverse).reverse) =
      cs ++ utf8DecodeLenient (unescapeRun run.reverse) := by
    intro run
    rw [List.reverse_append, List.reverse_reverse, h.unescapeRun, utf8DecodeLenient_append]
  -- The run grows with every ASCII character and is decoded at the first other one.
  induction rest generalizing run with
  | nil => exact hrun run
  | cons c rest ih =>
      rw [percentDecodeFrom, percentDecodeFrom]
      split
      · exact ih (c :: run)
      · rw [hrun, List.append_assoc]

theorem percentDecodeFrom_isAscii {front : List Char} (h : ∀ c ∈ front, isAscii c = true)
    (run rest : List Char) :
    percentDecodeFrom run (front ++ rest) = percentDecodeFrom (front.reverse ++ run) rest := by
  induction front generalizing run with
  | nil => rfl
  | cons c front ih =>
      obtain ⟨hc, hfront⟩ := List.forall_mem_cons.1 h
      rw [List.cons_append, percentDecodeFrom, if_pos hc, ih hfront, List.reverse_cons,
        List.append_assoc, List.singleton_append]

/-- **Characters at the beginning of a text are decoded by themselves.** -/
theorem percentDecode_append {front cs : List Char} (h : StandsFor front cs) (rest : List Char) :
    percentDecode (front ++ rest) = cs ++ percentDecode rest := by
  rw [percentDecode, percentDecodeFrom_isAscii h.isAscii, List.append_nil]
  exact percentDecodeFrom_append h [] rest

/-- A character that is no ASCII character is not decoded. -/
theorem percentDecode_cons {c : Char} (h : isAscii c = false) (rest : List Char) :
    percentDecode (c :: rest) = c :: percentDecode rest := by
  rw [percentDecode, percentDecodeFrom, if_neg (by simp [h])]
  rfl

/-! ### Spellings -/

/-- The spellings of a text: a character stands for itself, or all its bytes are escaped. -/
inductive PercentSpelling : List Char → List Char → Prop
  | nil : PercentSpelling [] []
  | plain {c : Char} {cs spelled : List Char} (h : c ≠ '%') (hrest : PercentSpelling cs spelled) :
      PercentSpelling (c :: cs) (c :: spelled)
  | escaped {c : Char} {cs spelled : List Char} {escapes : List (List Char)}
      (h : List.Forall₂ IsEscape (utf8Bytes c) escapes) (hrest : PercentSpelling cs spelled) :
      PercentSpelling (c :: cs) (escapes.flatten ++ spelled)

/-- All spellings of a text are read as the text. -/
theorem percentDecode_of_spelling {cs spelled : List Char} (h : PercentSpelling cs spelled) :
    percentDecode spelled = cs := by
  induction h with
  | nil => rfl
  | @plain c cs spelled hne _ ih =>
      cases hascii : isAscii c with
      | true =>
          have hc := percentDecode_append (.plain hascii hne) spelled
          rwa [ih] at hc
      | false => rw [percentDecode_cons hascii, ih]
  | @escaped c cs spelled escapes hescapes _ ih =>
      rw [percentDecode_append (.escaped hescapes), ih, List.singleton_append]

/-- A text without percent signs is a spelling of itself. -/
theorem PercentSpelling.refl {cs : List Char} (h : '%' ∉ cs) : PercentSpelling cs cs := by
  induction cs with
  | nil => exact .nil
  | cons c cs ih =>
      obtain ⟨hne, hnotMem⟩ := not_or.1 (mt List.mem_cons.2 h)
      exact .plain (Ne.symm hne) (ih hnotMem)

/-! ### Encoding -/

/-- A character that encoding does not escape. -/
def isSafe (safe : List Char) (c : Char) : Bool :=
  isUnreserved c || safe.contains c

variable {safe : List Char}

theorem percentEncodeChar_of_isSafe {c : Char} (h : isSafe safe c = true) :
    percentEncodeChar safe c = [c] :=
  if_pos h

theorem percentEncodeChar_of_not {c : Char} (h : isSafe safe c = false) :
    percentEncodeChar safe c = (utf8Bytes c).flatMap escapeByte :=
  if_neg (Bool.eq_false_iff.1 h)

theorem isSafe_percent (h : '%' ∉ safe) : isSafe safe '%' = false := by
  have hreserved : isUnreserved '%' = false := by decide
  simp [isSafe, hreserved, h]

/-- The encoded form of a text is one of its spellings. -/
theorem spelling_percentEncode (h : '%' ∉ safe) (cs : List Char) :
    PercentSpelling cs (percentEncode safe cs) := by
  induction cs with
  | nil => exact .nil
  | cons c cs ih =>
      rw [percentEncode, List.flatMap_cons, ← percentEncode]
      cases hc : isSafe safe c with
      | true =>
          have hne : c ≠ '%' := by
            rintro rfl
            rw [isSafe_percent h] at hc
            cases hc
          rw [percentEncodeChar_of_isSafe hc]
          exact .plain hne ih
      | false =>
          have hescapes : List.Forall₂ IsEscape (utf8Bytes c) ((utf8Bytes c).map escapeByte) :=
            List.forall₂_map_right_iff.2 (List.forall₂_same.2 fun b _ => isEscape_escapeByte b)
          rw [percentEncodeChar_of_not hc]
          exact .escaped hescapes ih

/-- **The encoded form of a text is read as the text.** -/
theorem percentDecode_percentEncode (h : '%' ∉ safe) (cs : List Char) :
    percentDecode (percentEncode safe cs) = cs :=
  percentDecode_of_spelling (spelling_percentEncode h cs)

/-! ### The characters of an encoded form -/

/-- A hexadecimal digit in upper case. -/
def IsUpperHex (c : Char) : Prop :=
  c ∈ "0123456789ABCDEF".toList

instance (c : Char) : Decidable (IsUpperHex c) :=
  inferInstanceAs (Decidable (_ ∈ _))

theorem isUpperHex_upperHexDigit {n : Nat} (h : n < 16) : IsUpperHex (upperHexDigit n) := by
  have hall : ∀ n < 16, IsUpperHex (upperHexDigit n) := by decide
  exact hall n h

/-- A text that consists of characters that are safe and of escapes in upper case. -/
inductive PercentNormal (isSafe : Char → Prop) : List Char → Prop
  | nil : PercentNormal isSafe []
  | plain {c : Char} {cs : List Char} (h : isSafe c) (hrest : PercentNormal isSafe cs) :
      PercentNormal isSafe (c :: cs)
  | escape {high low : Char} {cs : List Char} (hhigh : IsUpperHex high) (hlow : IsUpperHex low)
      (hrest : PercentNormal isSafe cs) : PercentNormal isSafe ('%' :: high :: low :: cs)

theorem percentNormal_escapes {P : Char → Prop} (bytes : List UInt8) {cs : List Char}
    (h : PercentNormal P cs) : PercentNormal P (bytes.flatMap escapeByte ++ cs) := by
  induction bytes with
  | nil => exact h
  | cons b bytes ih =>
      have hb : b.toNat < 256 := b.toNat_lt
      rw [List.flatMap_cons, List.append_assoc]
      exact .escape (isUpperHex_upperHexDigit (by omega)) (isUpperHex_upperHexDigit (by omega)) ih

/-- The encoded form of a text consists of safe characters and of escapes in upper case. -/
theorem percentNormal_percentEncode {P : Char → Prop} (h : ∀ c, isSafe safe c = true → P c)
    (cs : List Char) : PercentNormal P (percentEncode safe cs) := by
  induction cs with
  | nil => exact .nil
  | cons c cs ih =>
      rw [percentEncode, List.flatMap_cons, ← percentEncode]
      cases hc : isSafe safe c with
      | true =>
          rw [percentEncodeChar_of_isSafe hc]
          exact .plain (h c hc) ih
      | false =>
          rw [percentEncodeChar_of_not hc]
          exact percentNormal_escapes _ ih

/-! ### Safe characters -/

theorem percentEncode_append_of_isSafe {front : List Char} (h : ∀ c ∈ front, isSafe safe c = true)
    (cs : List Char) : percentEncode safe (front ++ cs) = front ++ percentEncode safe cs := by
  induction front with
  | nil => rfl
  | cons c front ih =>
      obtain ⟨hc, hfront⟩ := List.forall_mem_cons.1 h
      rw [List.cons_append, percentEncode, List.flatMap_cons, ← percentEncode,
        percentEncodeChar_of_isSafe hc, ih hfront, List.singleton_append, List.cons_append]

/-- An escaped character begins with a percent sign. -/
theorem exists_percentEncodeChar_eq {c : Char} (h : isSafe safe c = false) :
    ∃ escape, percentEncodeChar safe c = '%' :: escape := by
  have hne : utf8Bytes c ≠ [] := by
    unfold utf8Bytes
    dsimp only
    split_ifs <;> exact List.cons_ne_nil _ _
  obtain ⟨b, bytes, hbytes⟩ := List.exists_cons_of_ne_nil hne
  rw [percentEncodeChar_of_not h, hbytes, List.flatMap_cons, escapeByte, List.cons_append]
  exact ⟨_, rfl⟩

/-- Safe characters at the beginning of a text stay there, and no others come there. -/
theorem prefix_percentEncode_iff (hpercent : '%' ∉ safe) {front : List Char}
    (h : ∀ c ∈ front, isSafe safe c = true) (cs : List Char) :
    front <+: percentEncode safe cs ↔ front <+: cs := by
  constructor
  · intro hfirst
    induction front generalizing cs with
    | nil => exact List.nil_prefix
    | cons d front ih =>
        obtain ⟨hd, hfront⟩ := List.forall_mem_cons.1 h
        cases cs with
        | nil => cases List.prefix_nil.1 hfirst
        | cons c cs =>
            rw [percentEncode, List.flatMap_cons, ← percentEncode] at hfirst
            cases hc : isSafe safe c with
            | true =>
                rw [percentEncodeChar_of_isSafe hc, List.singleton_append,
                  List.cons_prefix_cons] at hfirst
                exact List.cons_prefix_cons.2 ⟨hfirst.1, ih hfront cs hfirst.2⟩
            | false =>
                obtain ⟨escape, hescape⟩ := exists_percentEncodeChar_eq hc
                rw [hescape, List.cons_append, List.cons_prefix_cons] at hfirst
                rw [hfirst.1, isSafe_percent hpercent] at hd
                cases hd
  · rintro ⟨rest, rfl⟩
    rw [percentEncode_append_of_isSafe h]
    exact List.prefix_append _ _

/-- A safe character that no escape is made of is neither added nor lost. -/
theorem mem_percentEncode_iff {c : Char} (h : isSafe safe c = true) (hpercent : c ≠ '%')
    (hhex : ¬IsUpperHex c) (cs : List Char) : c ∈ percentEncode safe cs ↔ c ∈ cs := by
  have hescape : ∀ b : UInt8, c ∉ escapeByte b := by
    intro b hc
    have hb : b.toNat < 256 := b.toNat_lt
    rw [escapeByte, List.mem_cons, List.mem_cons, List.mem_singleton] at hc
    rcases hc with hc | hc | hc
    · exact hpercent hc
    · exact hhex (hc ▸ isUpperHex_upperHexDigit (by omega))
    · exact hhex (hc ▸ isUpperHex_upperHexDigit (by omega))
  rw [percentEncode, List.mem_flatMap]
  constructor
  · rintro ⟨d, hd, hc⟩
    cases hsafe : isSafe safe d with
    | true =>
        rw [percentEncodeChar_of_isSafe hsafe, List.mem_singleton] at hc
        exact hc ▸ hd
    | false =>
        rw [percentEncodeChar_of_not hsafe, List.mem_flatMap] at hc
        obtain ⟨b, -, hb⟩ := hc
        exact absurd hb (hescape b)
  · intro hc
    exact ⟨c, hc, by rw [percentEncodeChar_of_isSafe h]; exact List.mem_singleton_self c⟩

end ForumMarkup.Text
