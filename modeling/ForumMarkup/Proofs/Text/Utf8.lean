import ForumMarkup.Text.Utf8
/-
**UTF-8 is read back.**

The bytes of a character are one character when they are read, whatever follows them.  So the bytes
of a text are well formed, and they denote the text.  There are no other well-formed bytes: those
that are read as a character are the bytes of the character.

Main results:

* `ForumMarkup.Text.utf8Split_utf8Bytes` — the bytes of a character in front of others;
* `ForumMarkup.Text.utf8Decode?_utf8Encode` — **the bytes of a text denote the text**;
* `ForumMarkup.Text.utf8Decode?_eq_some` — **only the bytes of a text denote it**.
-/

set_option autoImplicit false

namespace ForumMarkup.Text

/-! ### Bytes -/

theorem within_iff {low high : Nat} {b : UInt8} :
    within low high b = true ↔ low ≤ b.toNat ∧ b.toNat ≤ high := by
  simp [within]

theorem toNat_byte {n : Nat} (h : n < 256) : (UInt8.ofNat n).toNat = n :=
  UInt8.toNat_ofNat_of_lt' h

/-- A byte that continues a character, made of six bits. -/
theorem isTail_ofNat {n : Nat} (h : n < 64) :
    isTail (UInt8.ofNat (0x80 + n)) = true ∧ tailBits (UInt8.ofNat (0x80 + n)) = n := by
  have hbyte : (UInt8.ofNat (0x80 + n)).toNat = 0x80 + n := toNat_byte (by omega)
  constructor
  · rw [isTail, within_iff, hbyte]
    omega
  · rw [tailBits, hbyte]
    omega

/-- The second byte of a character: it continues it, and after four first bytes there is a further
bound on it. -/
theorem isSecond_of {first second : UInt8} (htail : isTail second = true)
    (hE0 : first.toNat = 0xE0 → 0xA0 ≤ second.toNat)
    (hED : first.toNat = 0xED → second.toNat ≤ 0x9F)
    (hF0 : first.toNat = 0xF0 → 0x90 ≤ second.toNat)
    (hF4 : first.toNat = 0xF4 → second.toNat ≤ 0x8F) : isSecond first second = true := by
  have hbounds := within_iff.1 htail
  unfold isSecond
  split
  · rename_i h
    exact within_iff.2 ⟨hE0 h, hbounds.2⟩
  · rename_i h
    exact within_iff.2 ⟨hbounds.1, hED h⟩
  · rename_i h
    exact within_iff.2 ⟨hF0 h, hbounds.2⟩
  · rename_i h
    exact within_iff.2 ⟨hbounds.1, hF4 h⟩
  · exact htail

/-! ### Characters by their width -/

section

variable {a b c d : UInt8} (rest : List UInt8)

theorem utf8Split_one (ha : a.toNat < 0x80) :
    utf8Split (a :: rest) = some (Char.ofNat a.toNat) :: utf8Split rest := by
  rw [utf8Split.eq_def]
  simp only [if_pos ha]

theorem utf8Split_two (ha : 0xC2 ≤ a.toNat ∧ a.toNat ≤ 0xDF) (hb : isTail b = true) :
    utf8Split (a :: b :: rest) =
      some (Char.ofNat (a.toNat % 32 * 64 + tailBits b)) :: utf8Split rest := by
  have hone : ¬a.toNat < 0x80 := by omega
  rw [utf8Split.eq_def]
  simp only [if_neg hone, if_pos (within_iff.2 ha), if_pos hb]

theorem utf8Split_three (ha : 0xE0 ≤ a.toNat ∧ a.toNat ≤ 0xEF) (hb : isSecond a b = true)
    (hc : isTail c = true) :
    utf8Split (a :: b :: c :: rest) =
      some (Char.ofNat ((a.toNat % 16 * 64 + tailBits b) * 64 + tailBits c)) ::
        utf8Split rest := by
  have hone : ¬a.toNat < 0x80 := by omega
  have htwo : ¬within 0xC2 0xDF a = true := by
    rw [within_iff]
    omega
  rw [utf8Split.eq_def]
  simp only [if_neg hone, if_neg htwo, if_pos (within_iff.2 ha), if_pos hb, if_pos hc]

theorem utf8Split_four (ha : 0xF0 ≤ a.toNat ∧ a.toNat ≤ 0xF4) (hb : isSecond a b = true)
    (hc : isTail c = true) (hd : isTail d = true) :
    utf8Split (a :: b :: c :: d :: rest) =
      some (Char.ofNat
        (((a.toNat % 8 * 64 + tailBits b) * 64 + tailBits c) * 64 + tailBits d)) ::
        utf8Split rest := by
  have hone : ¬a.toNat < 0x80 := by omega
  have htwo : ¬within 0xC2 0xDF a = true := by
    rw [within_iff]
    omega
  have hthree : ¬within 0xE0 0xEF a = true := by
    rw [within_iff]
    omega
  rw [utf8Split.eq_def]
  simp only [if_neg hone, if_neg htwo, if_neg hthree, if_pos (within_iff.2 ha), if_pos hb,
    if_pos hc, if_pos hd]

end

/-- A character is no surrogate. -/
theorem char_bounds (c : Char) :
    c.toNat < 0xD800 ∨ (0xDFFF < c.toNat ∧ c.toNat < 0x110000) := c.valid

/-- The bytes of a character are read as the character. -/
theorem utf8Split_utf8Bytes (c : Char) (rest : List UInt8) :
    utf8Split (utf8Bytes c ++ rest) = some c :: utf8Split rest := by
  have hvalid := char_bounds c
  have hback : ∀ n, n = c.toNat → Char.ofNat n = c := by
    rintro n rfl
    exact Char.ofNat_toNat c
  unfold utf8Bytes
  generalize c.toNat = n at hvalid hback ⊢
  -- The cases are the four widths.
  by_cases h1 : n < 0x80
  · have ha : (UInt8.ofNat n).toNat = n := toNat_byte (by omega)
    simp only [if_pos h1, List.cons_append, List.nil_append]
    rw [utf8Split_one rest (by omega), ha, hback n rfl]
  by_cases h2 : n < 0x800
  · have ha : (UInt8.ofNat (0xC0 + n / 64)).toNat = 0xC0 + n / 64 :=
      toNat_byte (by omega)
    obtain ⟨hb, hbits⟩ := isTail_ofNat (n := n % 64) (by omega)
    simp only [if_neg h1, if_pos h2, List.cons_append, List.nil_append]
    rw [utf8Split_two rest (by omega) hb, ha, hbits, hback _ (by omega)]
  by_cases h3 : n < 0x10000
  · have ha : (UInt8.ofNat (0xE0 + n / 4096)).toNat = 0xE0 + n / 4096 :=
      toNat_byte (by omega)
    have hbyte : (UInt8.ofNat (0x80 + n / 64 % 64)).toNat = 0x80 + n / 64 % 64 :=
      toNat_byte (by omega)
    obtain ⟨hb, hbits₁⟩ := isTail_ofNat (n := n / 64 % 64) (by omega)
    obtain ⟨hc, hbits₂⟩ := isTail_ofNat (n := n % 64) (by omega)
    have hsecond : isSecond (UInt8.ofNat (0xE0 + n / 4096)) (UInt8.ofNat (0x80 + n / 64 % 64)) =
        true := by
      refine isSecond_of hb ?_ ?_ ?_ ?_ <;> rw [ha, hbyte] <;> omega
    simp only [if_neg h1, if_neg h2, if_pos h3, List.cons_append, List.nil_append]
    rw [utf8Split_three rest (by omega) hsecond hc, ha, hbits₁, hbits₂, hback _ (by omega)]
  · have ha : (UInt8.ofNat (0xF0 + n / 262144)).toNat = 0xF0 + n / 262144 :=
      toNat_byte (by omega)
    have hbyte : (UInt8.ofNat (0x80 + n / 4096 % 64)).toNat = 0x80 + n / 4096 % 64 :=
      toNat_byte (by omega)
    obtain ⟨hb, hbits₁⟩ := isTail_ofNat (n := n / 4096 % 64) (by omega)
    obtain ⟨hc, hbits₂⟩ := isTail_ofNat (n := n / 64 % 64) (by omega)
    obtain ⟨hd, hbits₃⟩ := isTail_ofNat (n := n % 64) (by omega)
    have hsecond : isSecond (UInt8.ofNat (0xF0 + n / 262144))
        (UInt8.ofNat (0x80 + n / 4096 % 64)) = true := by
      refine isSecond_of hb ?_ ?_ ?_ ?_ <;> rw [ha, hbyte] <;> omega
    simp only [if_neg h1, if_neg h2, if_neg h3, List.cons_append, List.nil_append]
    rw [utf8Split_four rest (by omega) hsecond hc hd, ha, hbits₁, hbits₂, hbits₃,
      hback _ (by omega)]

/-! ### Texts -/

theorem utf8Split_utf8Encode (cs : List Char) : utf8Split (utf8Encode cs) = cs.map some := by
  induction cs with
  | nil => rfl
  | cons c cs ih =>
      rw [utf8Encode, List.flatMap_cons, ← utf8Encode, utf8Split_utf8Bytes, ih, List.map_cons]

/-- **The bytes of a text denote the text.** -/
theorem utf8Decode?_utf8Encode (cs : List Char) : utf8Decode? (utf8Encode cs) = some cs := by
  rw [utf8Decode?, utf8Split_utf8Encode]
  induction cs with
  | nil => rfl
  | cons c cs ih =>
      rw [List.map_cons, List.mapM_cons, ih]
      rfl

/-! ### Well-formed bytes -/

theorem toNat_ofNat {n : Nat} (h : n < 0xD800 ∨ (0xDFFF < n ∧ n < 0x110000)) :
    (Char.ofNat n).toNat = n := by
  have hvalid : n.isValidChar := h
  rw [Char.ofNat, dif_pos hvalid]
  rfl

theorem eq_ofNat {b : UInt8} {n : Nat} (h : b.toNat = n) : UInt8.ofNat n = b := by
  rw [← h, UInt8.ofNat_toNat]

/-- The bounds on the second byte of a character. -/
theorem of_isSecond {first second : UInt8} (h : isSecond first second = true) :
    0x80 ≤ second.toNat ∧ second.toNat ≤ 0xBF ∧ (first.toNat = 0xE0 → 0xA0 ≤ second.toNat) ∧
      (first.toNat = 0xED → second.toNat ≤ 0x9F) ∧ (first.toNat = 0xF0 → 0x90 ≤ second.toNat) ∧
      (first.toNat = 0xF4 → second.toNat ≤ 0x8F) := by
  unfold isSecond at h
  split at h
  case h_5 hE0 hED hF0 hF4 =>
    have hbounds := within_iff.1 h
    exact ⟨hbounds.1, hbounds.2, fun heq => (hE0 heq).elim, fun heq => (hED heq).elim,
      fun heq => (hF0 heq).elim, fun heq => (hF4 heq).elim⟩
  all_goals
    have hbounds := within_iff.1 h
    omega

section

variable {a b c d : UInt8}

theorem utf8Bytes_one (ha : a.toNat < 0x80) : utf8Bytes (Char.ofNat a.toNat) = [a] := by
  rw [utf8Bytes, toNat_ofNat (by omega)]
  simp only [if_pos ha, UInt8.ofNat_toNat]

theorem utf8Bytes_two (ha : within 0xC2 0xDF a = true) (hb : isTail b = true) :
    utf8Bytes (Char.ofNat (a.toNat % 32 * 64 + tailBits b)) = [a, b] := by
  rw [within_iff] at ha
  rw [isTail, within_iff] at hb
  rw [tailBits, utf8Bytes, toNat_ofNat (by omega)]
  rw [if_neg (by omega), if_pos (by omega), eq_ofNat (b := a) (by omega),
    eq_ofNat (b := b) (by omega)]

theorem utf8Bytes_three (ha : within 0xE0 0xEF a = true) (hb : isSecond a b = true)
    (hc : isTail c = true) :
    utf8Bytes (Char.ofNat ((a.toNat % 16 * 64 + tailBits b) * 64 + tailBits c)) = [a, b, c] := by
  have hsecond := of_isSecond hb
  rw [within_iff] at ha
  rw [isTail, within_iff] at hc
  rw [tailBits, tailBits, utf8Bytes, toNat_ofNat (by omega)]
  rw [if_neg (by omega), if_neg (by omega), if_pos (by omega), eq_ofNat (b := a) (by omega),
    eq_ofNat (b := b) (by omega), eq_ofNat (b := c) (by omega)]

theorem utf8Bytes_four (ha : within 0xF0 0xF4 a = true) (hb : isSecond a b = true)
    (hc : isTail c = true) (hd : isTail d = true) :
    utf8Bytes (Char.ofNat
      (((a.toNat % 8 * 64 + tailBits b) * 64 + tailBits c) * 64 + tailBits d)) = [a, b, c, d] := by
  have hsecond := of_isSecond hb
  rw [within_iff] at ha
  rw [isTail, within_iff] at hc hd
  rw [tailBits, tailBits, tailBits, utf8Bytes, toNat_ofNat (by omega)]
  rw [if_neg (by omega), if_neg (by omega), if_neg (by omega), eq_ofNat (b := a) (by omega),
    eq_ofNat (b := b) (by omega), eq_ofNat (b := c) (by omega), eq_ofNat (b := d) (by omega)]

end

/-- Bytes without an ill-formed part are those of their characters. -/
theorem eq_utf8Encode_of_utf8Split {bytes : List UInt8} {cs : List Char}
    (h : utf8Split bytes = cs.map some) : bytes = utf8Encode cs := by
  -- Each step of the reading takes the bytes of one character, or finds an ill-formed part.
  have hcons : ∀ {found : Char} {front rest : List UInt8} {cs : List Char},
      utf8Bytes found = front → (∀ {cs : List Char}, utf8Split rest = cs.map some →
        rest = utf8Encode cs) → some found :: utf8Split rest = cs.map some →
      front ++ rest = utf8Encode cs := by
    rintro found front rest (_ | ⟨c, cs⟩) hfront ih h
    · cases h
    · rw [List.map_cons, List.cons.injEq, Option.some.injEq] at h
      obtain ⟨rfl, h⟩ := h
      rw [utf8Encode, List.flatMap_cons, ← utf8Encode, hfront, ih h]
  have hnone : ∀ {rest : List (Option Char)} {cs : List Char}, none :: rest ≠ cs.map some := by
    rintro rest (_ | ⟨c, cs⟩) h
    · cases h
    · cases h
  fun_induction utf8Split bytes generalizing cs with
  | case1 =>
      cases cs with
      | nil => rfl
      | cons c cs => cases h
  | case2 a rest ha ih => exact hcons (utf8Bytes_one ha) ih h
  | case4 a ha htwo b rest hb ih => exact hcons (utf8Bytes_two htwo hb) ih h
  | case8 a ha htwo hthree b hb c rest hc ih => exact hcons (utf8Bytes_three hthree hb hc) ih h
  | case14 a ha htwo hthree hfour b hb c hc d rest hd ih =>
      exact hcons (utf8Bytes_four hfour hb hc hd) ih h
  | _ => exact absurd h hnone

theorem eq_map_some_of_mapM {found : List (Option Char)} {cs : List Char}
    (h : found.mapM id = some cs) : found = cs.map some := by
  induction found generalizing cs with
  | nil =>
      cases h
      rfl
  | cons c? found ih =>
      rw [List.mapM_cons] at h
      obtain ⟨c, hc, h⟩ := Option.bind_eq_some_iff.1 h
      obtain ⟨cs', hcs, h⟩ := Option.bind_eq_some_iff.1 h
      cases h
      rw [List.map_cons, ← ih hcs]
      exact congrArg (· :: found) hc

/-- **Only the bytes of a text denote it.** -/
theorem utf8Decode?_eq_some {bytes : List UInt8} {cs : List Char} :
    utf8Decode? bytes = some cs ↔ bytes = utf8Encode cs := by
  constructor
  · exact fun h => eq_utf8Encode_of_utf8Split (eq_map_some_of_mapM h)
  · rintro rfl
    exact utf8Decode?_utf8Encode cs

end ForumMarkup.Text
