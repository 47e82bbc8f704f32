import ForumMarkup.Proofs.Json.Token
import ForumMarkup.Proofs.Text.Newline
/-
**Reading the texts of JSON.**

A text between quotes holds no line end, since that is a control character, and no escape consists
of one.  So the reader takes the same text off a source with carriage returns and off the source
with plain line ends, or finds the same problem in both, though at another place.

Main definitions:

* `ForumMarkup.Json.ReadsAlike` — two readings that come to the same;
* `ForumMarkup.Json.OverLimit` — the problem that an integer has more digits than the limit;
* `ForumMarkup.Json.Proceeds` — a reading that leaves less, or finds that the source is not JSON;
* `ForumMarkup.Json.TakesAlike` — what one character of the text comes to.

Main results:

* `ForumMarkup.Json.readsAlike_textBody`, `ForumMarkup.Json.proceeds_textBody` — the rest of a text
  after its opening quote.
-/

set_option autoImplicit false

namespace ForumMarkup.Json

open Text (plainNewlines plainNewlines_cons of_plainNewlines_eq_cons)

/-! ### Readings -/

/-- Two readings of a text, the second one with plain line ends, that come to the same: to the same
result with the same rest, or to the same problem, be it at another place. -/
inductive ReadsAlike {α : Type} :
    Except Trouble (α × List Char) → Except Trouble (α × List Char) → Prop
  | ok (a : α) (rest : List Char) : ReadsAlike (.ok (a, rest)) (.ok (a, plainNewlines rest))
  | error (problem : Problem) (m n : Nat) : ReadsAlike (.error (problem, m)) (.error (problem, n))

/-- An integer has more digits than the limit to them. -/
inductive OverLimit (limit? : Option Nat) : Problem → Prop
  | mk {limit digits : Nat} (hlimit : limit? = some limit) (hdigits : limit < digits) :
      OverLimit limit? (.integerTooLong limit digits)

/-- A reading that proceeds: it leaves fewer than `n` characters or finds a problem, which is that
the source is not JSON unless there is a limit to the digits of an integer and one has more. -/
inductive Proceeds {α : Type} (limit? : Option Nat) (n : Nat) :
    Except Trouble (α × List Char) → Prop
  | ok {a : α} {rest : List Char} (h : rest.length < n) : Proceeds limit? n (.ok (a, rest))
  | error {problem : Problem} (h : problem.isMalformed = true ∨ OverLimit limit? problem)
      (m : Nat) : Proceeds limit? n (.error (problem, m))

namespace ReadsAlike

variable {α β : Type}

theorem bind {x y : Except Trouble (α × List Char)}
    {f g : α × List Char → Except Trouble (β × List Char)} (h : ReadsAlike x y)
    (hnext : ∀ a rest, x = .ok (a, rest) → y = .ok (a, plainNewlines rest) →
      ReadsAlike (f (a, rest)) (g (a, plainNewlines rest))) :
    ReadsAlike (x >>= f) (y >>= g) := by
  cases h with
  | ok a rest => exact hnext a rest rfl rfl
  | error problem m n => exact .error problem m n

theorem map {x y : Except Trouble (α × List Char)} (h : ReadsAlike x y) (f : α → β) :
    ReadsAlike (x.map fun p => (f p.1, p.2)) (y.map fun p => (f p.1, p.2)) := by
  cases h with
  | ok a rest => exact .ok (f a) rest
  | error problem m n => exact .error problem m n

end ReadsAlike

namespace Proceeds

variable {α β : Type} {limit? : Option Nat} {m n : Nat}

theorem length_lt {a : α} {rest : List Char} {x : Except Trouble (α × List Char)}
    (h : Proceeds limit? n x) (heq : x = .ok (a, rest)) : rest.length < n := by
  subst heq
  cases h with
  | ok h => exact h

theorem mono {x : Except Trouble (α × List Char)} (h : Proceeds limit? m x) (hle : m ≤ n) :
    Proceeds limit? n x := by
  cases h with
  | ok h => exact .ok (Nat.lt_of_lt_of_le h hle)
  | error h place => exact .error h place

theorem bind {x : Except Trouble (α × List Char)}
    {f : α × List Char → Except Trouble (β × List Char)} (h : Proceeds limit? m x)
    (hnext : ∀ a rest, rest.length < m → Proceeds limit? n (f (a, rest))) :
    Proceeds limit? n (x >>= f) := by
  cases h with
  | ok h => exact hnext _ _ h
  | error h place => exact .error h place

theorem map {x : Except Trouble (α × List Char)} (h : Proceeds limit? n x) (f : α → β) :
    Proceeds limit? n (x.map fun p => (f p.1, p.2)) := by
  cases h with
  | ok h => exact .ok h
  | error h place => exact .error h place

end Proceeds

/-! ### Escapes -/

/-- The number that four hexadecimal digits in front denote, and what follows them, which has to be
something. -/
def quadAhead? : List Char → Option (Nat × List Char)
  | h₁ :: h₂ :: h₃ :: h₄ :: next :: after => (hexQuad? h₁ h₂ h₃ h₄).map fun u => (u, next :: after)
  | _ => none

/-- Whether a number is that of the first surrogate of a pair. -/
def isHigh (u : Nat) : Prop := 0xD800 ≤ u ∧ u < 0xDC00

/-- Whether a number is that of the second surrogate of a pair. -/
def isLow (v : Nat) : Prop := 0xDC00 ≤ v ∧ v < 0xE000

instance (u : Nat) : Decidable (isHigh u) := inferInstanceAs (Decidable (_ ∧ _))

instance (v : Nat) : Decidable (isLow v) := inferInstanceAs (Decidable (_ ∧ _))

/-- The number of an escape in front, if there is one, and what follows it. -/
def secondAhead? : List Char → Option (Option (Nat × List Char))
  | '\\' :: 'u' :: cs => some (quadAhead? cs)
  | _ => none

theorem quadAhead?_eq_some {cs rest : List Char} {u : Nat} (h : quadAhead? cs = some (u, rest)) :
    ∃ h₁ h₂ h₃ h₄ next after, cs = h₁ :: h₂ :: h₃ :: h₄ :: next :: after ∧
      hexQuad? h₁ h₂ h₃ h₄ = some u ∧ rest = next :: after := by
  unfold quadAhead? at h
  split at h
  · rename_i h₁ h₂ h₃ h₄ next after
    obtain ⟨v, hv, heq⟩ := Option.map_eq_some_iff.1 h
    obtain ⟨rfl, rfl⟩ := Prod.mk.inj heq
    exact ⟨h₁, h₂, h₃, h₄, next, after, rfl, hv, rfl⟩
  · cases h

theorem secondAhead?_eq_some {cs : List Char} {q : Option (Nat × List Char)}
    (h : secondAhead? cs = some q) : ∃ cs', cs = '\\' :: 'u' :: cs' ∧ q = quadAhead? cs' := by
  unfold secondAhead? at h
  split at h
  · exact ⟨_, rfl, (Option.some.inj h).symm⟩
  · cases h

section

variable (opening : List Char) {cs rest : List Char} {u v : Nat}

theorem textBody_malformed (h : quadAhead? cs = none) :
    ∃ n, textBody opening ('\\' :: 'u' :: cs) = .error (.badUnicodeEscape, n) := by
  rw [textBody.eq_def]
  simp only [Char.reduceBEq, Bool.false_eq_true, if_false, if_true]
  split
  · rename_i heq
    cases heq
  · rename_i h₁ h₂ h₃ h₄ next after heq
    obtain rfl := (List.cons.inj heq).2
    have hquad : hexQuad? h₁ h₂ h₃ h₄ = none := Option.map_eq_none_iff.1 h
    rw [hquad]
    exact ⟨_, rfl⟩
  · exact ⟨_, rfl⟩
  · rename_i hne heq
    exact (hne (List.cons.inj heq).1.symm).elim

/-- Two surrogates in order make one character. -/
theorem textBody_pair {second : List Char} (h : quadAhead? cs = some (u, second))
    (hhigh : isHigh u) (h' : secondAhead? second = some (some (v, rest))) (hlow : isLow v) :
    textBody opening ('\\' :: 'u' :: cs) =
      (textBody opening rest).map fun p =>
        (.char (Char.ofNat (0x10000 + (u - 0xD800) * 1024 + (v - 0xDC00))) :: p.1, p.2) := by
  obtain ⟨h₁, h₂, h₃, h₄, next, after, rfl, hu, rfl⟩ := quadAhead?_eq_some h
  obtain ⟨cs', heq, hquad⟩ := secondAhead?_eq_some h'
  obtain ⟨l₁, l₂, l₃, l₄, next', after', rfl, hv, rfl⟩ := quadAhead?_eq_some hquad.symm
  obtain ⟨rfl, rfl⟩ := List.cons.inj heq
  rw [isHigh] at hhigh
  rw [isLow] at hlow
  rw [textBody.eq_def]
  simp only [Char.reduceBEq, Bool.false_eq_true, if_false, if_true, hu, hv, if_pos hhigh,
    if_pos hlow]
  cases textBody opening (next' :: after') <;> rfl

/-- A second escape that is none spoils the first one. -/
theorem textBody_spoilt {second : List Char} (h : quadAhead? cs = some (u, second))
    (hhigh : isHigh u) (h' : secondAhead? second = some none) :
    ∃ n, textBody opening ('\\' :: 'u' :: cs) = .error (.badUnicodeEscape, n) := by
  obtain ⟨h₁, h₂, h₃, h₄, next, after, rfl, hu, rfl⟩ := quadAhead?_eq_some h
  obtain ⟨cs', heq, hquad⟩ := secondAhead?_eq_some h'
  obtain ⟨rfl, rfl⟩ := List.cons.inj heq
  rw [isHigh] at hhigh
  rw [textBody.eq_def]
  simp only [Char.reduceBEq, Bool.false_eq_true, if_false, if_true, hu]
  split
  · rename_i l₁ l₂ l₃ l₄ next' after' _ heq
    obtain rfl := (List.cons.inj heq).2
    have hv : hexQuad? l₁ l₂ l₃ l₄ = none := Option.map_eq_none_iff.1 hquad.symm
    rw [if_pos hhigh, hv]
    exact ⟨_, rfl⟩
  · obtain ⟨n, hn⟩ := textBody_malformed opening hquad.symm
    rw [hn]
    exact ⟨n, rfl⟩

/-- An escape that is not the first one of a pair denotes a code point by itself. -/
theorem textBody_single (h : quadAhead? cs = some (u, rest))
    (halone : isHigh u → ∀ q, secondAhead? rest = some q →
      ∃ v rest', q = some (v, rest') ∧ ¬isLow v) :
    textBody opening ('\\' :: 'u' :: cs) =
      (textBody opening rest).map fun p => (.ofNat u :: p.1, p.2) := by
  obtain ⟨h₁, h₂, h₃, h₄, next, after, rfl, hu, rfl⟩ := quadAhead?_eq_some h
  rw [textBody.eq_def]
  simp only [Char.reduceBEq, Bool.false_eq_true, if_false, if_true, hu]
  split
  · rename_i l₁ l₂ l₃ l₄ next' after'
    split
    · rename_i hhigh
      obtain ⟨v, rest', hq, hlow⟩ := halone hhigh _ rfl
      obtain ⟨_, _, _, _, _, _, heq, hv, -⟩ := quadAhead?_eq_some hq
      obtain ⟨rfl, rfl, rfl, rfl, rfl, rfl⟩ := by simpa using heq
      rw [isLow] at hlow
      simp only [hv, if_neg hlow]
      cases textBody opening _ <;> rfl
    · cases textBody opening _ <;> rfl
  · cases textBody opening _ <;> rfl

end

/-! ### Texts -/

theorem hexValue?_lineEnd (c : Char) (h : c = '\r' ∨ c = '\n') : Text.hexValue? c = none := by
  rcases h with rfl | rfl <;> rfl

/-- Four hexadecimal digits are no line ends. -/
theorem ne_of_hexQuad? {a b c d : Char} {u : Nat} (h : hexQuad? a b c d = some u) :
    ∀ e ∈ [a, b, c, d], e ≠ '\r' ∧ e ≠ '\n' := by
  have hsome : ∀ e ∈ [a, b, c, d], ∃ k, Text.hexValue? e = some k := by
    simp only [hexQuad?, Option.bind_eq_bind, Option.bind_eq_some_iff] at h
    obtain ⟨ka, ha, kb, hb, kc, hc, kd, hd, -⟩ := h
    simp only [List.mem_cons, List.not_mem_nil, or_false]
    rintro e (rfl | rfl | rfl | rfl)
    exacts [⟨ka, ha⟩, ⟨kb, hb⟩, ⟨kc, hc⟩, ⟨kd, hd⟩]
  intro e he
  obtain ⟨k, hk⟩ := hsome e he
  constructor
  · intro heq
    rw [hexValue?_lineEnd e (.inl heq)] at hk
    cases hk
  · intro heq
    rw [hexValue?_lineEnd e (.inr heq)] at hk
    cases hk

theorem quadAhead?_plainNewlines (cs : List Char) :
    quadAhead? (plainNewlines cs) =
      (quadAhead? cs).map fun p => (p.1, plainNewlines p.2) := by
  cases h : quadAhead? cs with
  | some p =>
      obtain ⟨u, rest⟩ := p
      obtain ⟨h₁, h₂, h₃, h₄, next, after, rfl, hu, rfl⟩ := quadAhead?_eq_some h
      have hne := ne_of_hexQuad? hu
      simp only [List.mem_cons, List.not_mem_nil, or_false, forall_eq_or_imp, forall_eq] at hne
      obtain ⟨hne₁, hne₂, hne₃, hne₄⟩ := hne
      rw [plainNewlines_cons hne₁.1, plainNewlines_cons hne₂.1, plainNewlines_cons hne₃.1,
        plainNewlines_cons hne₄.1]
      -- What follows the digits is still something.
      cases hafter : plainNewlines (next :: after) with
      | nil => exact absurd (Text.plainNewlines_eq_nil.1 hafter) (List.cons_ne_nil _ _)
      | cons next' after' => simp [quadAhead?, hu, hafter]
  | none =>
      rw [Option.map_none]
      cases hplain : quadAhead? (plainNewlines cs) with
      | none => rfl
      | some p =>
          obtain ⟨u, rest⟩ := p
          obtain ⟨h₁, h₂, h₃, h₄, next, after, heq, hu, rfl⟩ := quadAhead?_eq_some hplain
          have hne := ne_of_hexQuad? hu
          simp only [List.mem_cons, List.not_mem_nil, or_false, forall_eq_or_imp, forall_eq] at hne
          obtain ⟨hne₁, hne₂, hne₃, hne₄⟩ := hne
          obtain ⟨cs₁, rfl, heq₁⟩ := of_plainNewlines_eq_cons hne₁.2 heq
          obtain ⟨cs₂, rfl, heq₂⟩ := of_plainNewlines_eq_cons hne₂.2 heq₁.symm
          obtain ⟨cs₃, rfl, heq₃⟩ := of_plainNewlines_eq_cons hne₃.2 heq₂.symm
          obtain ⟨cs₄, rfl, heq₄⟩ := of_plainNewlines_eq_cons hne₄.2 heq₃.symm
          cases cs₄ with
          | nil => cases heq₄
          | cons next' after' => simp [quadAhead?, hu] at h

theorem secondAhead?_plainNewlines (cs : List Char) :
    secondAhead? (plainNewlines cs) =
      (secondAhead? cs).map fun q => q.map fun p => (p.1, plainNewlines p.2) := by
  cases h : secondAhead? cs with
  | some q =>
      obtain ⟨cs', rfl, rfl⟩ := secondAhead?_eq_some h
      rw [plainNewlines_cons (by decide), plainNewlines_cons (by decide), secondAhead?,
        quadAhead?_plainNewlines]
      rfl
  | none =>
      rw [Option.map_none]
      cases hplain : secondAhead? (plainNewlines cs) with
      | none => rfl
      | some q =>
          obtain ⟨cs', heq, -⟩ := secondAhead?_eq_some hplain
          obtain ⟨cs₁, rfl, heq₁⟩ := of_plainNewlines_eq_cons (by decide) heq
          obtain ⟨cs₂, rfl, -⟩ := of_plainNewlines_eq_cons (by decide) heq₁.symm
          cases h

theorem textBody_quote (opening rest : List Char) :
    textBody opening ('\x22' :: rest) = .ok ([], rest) := by
  rw [textBody.eq_def]
  rfl

theorem textBody_controlCharacter (opening : List Char) {c : Char} (hc : c.toNat < 0x20)
    (rest : List Char) :
    textBody opening (c :: rest) = .error (.controlCharacter, rest.length + 1) := by
  have hquote : c ≠ '\x22' := by
    rintro rfl
    exact absurd hc (by decide)
  have hslash : c ≠ '\\' := by
    rintro rfl
    exact absurd hc (by decide)
  rw [textBody.eq_def]
  simp only [beq_iff_eq, if_neg hquote, if_neg hslash, if_pos hc]

theorem textBody_badEscape (opening : List Char) {e : Char} (hu : e ≠ 'u')
    (he : shortEscape? e = none) (rest : List Char) :
    textBody opening ('\\' :: e :: rest) = .error (.badEscape, rest.length + 2) := by
  rw [textBody.eq_def]
  simp only [Char.reduceBEq, Bool.false_eq_true, if_false, if_true]
  split
  · rename_i heq
    cases heq
  · rename_i heq
    exact absurd (List.cons.inj heq).1 hu
  · rename_i heq
    exact absurd (List.cons.inj heq).1 hu
  · rename_i heq
    obtain ⟨rfl, rfl⟩ := List.cons.inj heq
    rw [he]

theorem length_of_quadAhead? {cs rest : List Char} {u : Nat}
    (h : quadAhead? cs = some (u, rest)) : rest.length < cs.length := by
  obtain ⟨h₁, h₂, h₃, h₄, next, after, rfl, -, rfl⟩ := quadAhead?_eq_some h
  simp only [List.length_cons]
  omega

/-- What comes of the first characters of a text with and without plain line ends: the same problem,
or the same code point in front of what follows. -/
def TakesAlike (cs ds : List Char) : Prop :=
  (∃ problem, problem.isMalformed = true ∧ ∀ opening, ∃ m n,
    textBody opening cs = .error (problem, m) ∧ textBody opening ds = .error (problem, n)) ∨
  ∃ point rest, rest.length < cs.length ∧ ∀ opening,
    textBody opening cs = (textBody opening rest).map (fun p => (point :: p.1, p.2)) ∧
    textBody opening ds = (textBody opening (plainNewlines rest)).map fun p => (point :: p.1, p.2)

/-- A unit that stands alone is taken alike. -/
theorem takesAlike_single {cs rest : List Char} {u : Nat} (h : quadAhead? cs = some (u, rest))
    (halone : isHigh u → ∀ q, secondAhead? rest = some q →
      ∃ v rest', q = some (v, rest') ∧ ¬isLow v) :
    TakesAlike ('\\' :: 'u' :: cs) ('\\' :: 'u' :: plainNewlines cs) := by
  have hplain := quadAhead?_plainNewlines cs
  rw [h] at hplain
  have hlength := length_of_quadAhead? h
  have hshort : rest.length < ('\\' :: 'u' :: cs).length := by
    simp only [List.length_cons]
    omega
  refine .inr ⟨.ofNat u, rest, hshort, fun opening =>
    ⟨textBody_single opening h halone, textBody_single opening hplain fun hhigh q hq => ?_⟩⟩
  rw [secondAhead?_plainNewlines] at hq
  obtain ⟨q', hq', rfl⟩ := Option.map_eq_some_iff.1 hq
  obtain ⟨v, rest', rfl, hlow⟩ := halone hhigh q' hq'
  exact ⟨v, plainNewlines rest', rfl, hlow⟩

theorem takesAlike_unicodeEscape (cs : List Char) :
    TakesAlike ('\\' :: 'u' :: cs) ('\\' :: 'u' :: plainNewlines cs) := by
  have hplain := quadAhead?_plainNewlines cs
  cases h : quadAhead? cs with
  | none =>
      rw [h] at hplain
      refine .inl ⟨.badUnicodeEscape, rfl, fun opening => ?_⟩
      obtain ⟨m, hm⟩ := textBody_malformed opening h
      obtain ⟨n, hn⟩ := textBody_malformed opening hplain
      exact ⟨m, n, hm, hn⟩
  | some p =>
      obtain ⟨u, rest⟩ := p
      rw [h] at hplain
      -- Only the first half of a pair looks at the escape after it.
      by_cases hhigh : isHigh u
      · have hsecond := secondAhead?_plainNewlines rest
        cases h' : secondAhead? rest with
        | none =>
            refine takesAlike_single h fun _ q hq => ?_
            rw [h'] at hq
            cases hq
        | some q =>
            rw [h'] at hsecond
            cases q with
            | none =>
                refine .inl ⟨.badUnicodeEscape, rfl, fun opening => ?_⟩
                obtain ⟨m, hm⟩ := textBody_spoilt opening h hhigh h'
                obtain ⟨n, hn⟩ := textBody_spoilt opening hplain hhigh hsecond
                exact ⟨m, n, hm, hn⟩
            | some q =>
                obtain ⟨v, rest'⟩ := q
                by_cases hlow : isLow v
                · have hlength := length_of_quadAhead? h
                  have hshort : rest'.length < ('\\' :: 'u' :: cs).length := by
                    obtain ⟨cs', rfl, hq⟩ := secondAhead?_eq_some h'
                    have := length_of_quadAhead? hq.symm
                    simp only [List.length_cons] at hlength ⊢
                    omega
                  exact .inr ⟨_, rest', hshort, fun opening =>
                    ⟨textBody_pair opening h hhigh h' hlow,
                      textBody_pair opening hplain hhigh hsecond hlow⟩⟩
                · refine takesAlike_single h fun _ q hq => ?_
                  rw [h'] at hq
                  exact ⟨v, rest', (Option.some.inj hq).symm, hlow⟩
      · exact takesAlike_single h fun hu => absurd hu hhigh

theorem takesAlike_escape (cs : List Char) :
    TakesAlike ('\\' :: cs) ('\\' :: plainNewlines cs) := by
  cases cs with
  | nil => exact .inl ⟨.unterminatedText, rfl, fun opening => ⟨_, _, rfl, rfl⟩⟩
  | cons e after =>
      by_cases hu : e = 'u'
      · rw [hu, plainNewlines_cons (by decide)]
        exact takesAlike_unicodeEscape after
      by_cases hr : e = '\r'
      · obtain ⟨rest, heq, -⟩ := Text.exists_plainNewlines_return after
        rw [hr, heq]
        exact .inl ⟨.badEscape, rfl, fun opening =>
          ⟨_, _, textBody_badEscape opening (by decide) rfl after,
            textBody_badEscape opening (by decide) rfl (plainNewlines rest)⟩⟩
      rw [plainNewlines_cons hr]
      cases he : shortEscape? e with
      | none =>
          exact .inl ⟨.badEscape, rfl, fun opening =>
            ⟨_, _, textBody_badEscape opening hu he after,
              textBody_badEscape opening hu he (plainNewlines after)⟩⟩
      | some c =>
          have hshort : after.length < ('\\' :: e :: after).length := by
            simp only [List.length_cons]
            omega
          exact .inr ⟨.char c, after, hshort, fun opening =>
            ⟨textBody_shortEscape opening he after,
              textBody_shortEscape opening he (plainNewlines after)⟩⟩

theorem takesAlike_cons {c : Char} (hquote : c ≠ '\x22') (cs : List Char) :
    TakesAlike (c :: cs) (plainNewlines (c :: cs)) := by
  by_cases hslash : c = '\\'
  · rw [hslash, plainNewlines_cons (by decide)]
    exact takesAlike_escape cs
  by_cases hr : c = '\r'
  · obtain ⟨rest, heq, -⟩ := Text.exists_plainNewlines_return cs
    rw [hr, heq]
    exact .inl ⟨.controlCharacter, rfl, fun opening =>
      ⟨_, _, textBody_controlCharacter opening (by decide) cs,
        textBody_controlCharacter opening (by decide) (plainNewlines rest)⟩⟩
  rw [plainNewlines_cons hr]
  by_cases hc : c.toNat < 0x20
  · exact .inl ⟨.controlCharacter, rfl, fun opening =>
      ⟨_, _, textBody_controlCharacter opening hc cs,
        textBody_controlCharacter opening hc (plainNewlines cs)⟩⟩
  · have hle : 0x20 ≤ c.toNat := Nat.le_of_not_lt hc
    exact .inr ⟨.char c, cs, by simp, fun opening =>
      ⟨textBody_plain opening hquote hslash hle cs,
        textBody_plain opening hquote hslash hle (plainNewlines cs)⟩⟩

/-- The text up to its closing quote is the same with plain line ends, since it holds no line
ends. -/
theorem readsAlike_textBody (opening opening' cs : List Char) :
    ReadsAlike (textBody opening cs) (textBody opening' (plainNewlines cs)) := by
  induction hn : cs.length using Nat.strongRecOn generalizing cs with
  | ind n ih =>
      subst hn
      cases cs with
      | nil => exact .error _ _ _
      | cons c cs =>
          by_cases hquote : c = '\x22'
          · rw [hquote, plainNewlines_cons (by decide), textBody_quote, textBody_quote]
            exact .ok [] cs
          rcases takesAlike_cons hquote cs with ⟨problem, -, herror⟩ | ⟨d, rest, hlength, htakes⟩
          · obtain ⟨m, -, hm, -⟩ := herror opening
            obtain ⟨-, n, -, hn⟩ := herror opening'
            rw [hm, hn]
            exact .error problem m n
          · rw [(htakes opening).1, (htakes opening').2]
            exact (ih rest.length hlength rest rfl).map (d :: ·)

theorem proceeds_textBody (limit? : Option Nat) (opening cs : List Char) :
    Proceeds limit? cs.length (textBody opening cs) := by
  induction hn : cs.length using Nat.strongRecOn generalizing cs with
  | ind n ih =>
      subst hn
      cases cs with
      | nil => exact .error (.inl rfl) _
      | cons c cs =>
          by_cases hquote : c = '\x22'
          · rw [hquote, textBody_quote]
            exact .ok (Nat.lt_succ_self _)
          rcases takesAlike_cons hquote cs with
            ⟨problem, hproblem, herror⟩ | ⟨d, rest, hlength, htakes⟩
          · obtain ⟨m, -, hm, -⟩ := herror opening
            rw [hm]
            exact .error (.inl hproblem) m
          · rw [(htakes opening).1]
            exact ((ih rest.length hlength rest rfl).mono (Nat.le_of_lt hlength)).map (d :: ·)

end ForumMarkup.Json
