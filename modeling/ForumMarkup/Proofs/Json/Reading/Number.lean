import ForumMarkup.Proofs.Json.Reading.Text
/-
**Reading the numbers of JSON.**

A number ends in front of a line end.  So the reader takes the same number off a source with
carriage returns and off the source with plain line ends.

Main definitions:

* `ForumMarkup.Json.exponentSign` — the sign of an exponent;
* `ForumMarkup.Json.unsigned` — a number without its sign.

Main results:

* `ForumMarkup.Json.readsAlike_number`, `ForumMarkup.Json.proceeds_number` — a number is read
  alike with plain line ends, and reading it proceeds.
-/

set_option autoImplicit false

namespace ForumMarkup.Json

open Text (plainNewlines plainNewlines_cons of_plainNewlines_eq_cons)

/-! ### Digits -/

theorem isDigit_lineEnd : isDigit '\r' = false ∧ isDigit '\n' = false := by decide

theorem wholeDigits?_plainNewlines (cs : List Char) :
    wholeDigits? (plainNewlines cs) =
      (wholeDigits? cs).map fun p => (p.1, plainNewlines p.2) := by
  cases cs with
  | nil => rfl
  | cons c cs =>
      by_cases hr : c = '\r'
      · obtain ⟨rest, heq, -⟩ := Text.exists_plainNewlines_return cs
        rw [hr, heq]
        rfl
      rw [plainNewlines_cons hr]
      by_cases hzero : c = '0'
      · rw [hzero]
        rfl
      · have hspan := Text.span_plainNewlines isDigit_lineEnd.1 isDigit_lineEnd.2 (c :: cs)
        rw [plainNewlines_cons hr] at hspan
        have hwhole : ∀ ds, wholeDigits? (c :: ds) =
            if isDigit c then some ((c :: ds).span isDigit) else none := by
          intro ds
          rw [wholeDigits?]
          rintro rfl
          exact hzero rfl
        rw [hwhole, hwhole, hspan]
        split <;> rfl

theorem fractionDigits?_plainNewlines (cs : List Char) :
    fractionDigits? (plainNewlines cs) =
      (fractionDigits? cs).map fun p => (p.1, plainNewlines p.2) := by
  by_cases hpoint : ∃ c rest, cs = '.' :: c :: rest ∧ isDigit c = true
  · obtain ⟨c, rest, rfl, hc⟩ := hpoint
    have hr : c ≠ '\r' := by
      rintro rfl
      cases hc
    have hspan := Text.span_plainNewlines isDigit_lineEnd.1 isDigit_lineEnd.2 (c :: rest)
    rw [plainNewlines_cons hr] at hspan
    rw [plainNewlines_cons (by decide), plainNewlines_cons hr]
    simp only [fractionDigits?, if_pos hc, hspan, Option.map_some]
  · have hnone : ∀ ds, (∀ c rest, ds = '.' :: c :: rest → isDigit c = false) →
        fractionDigits? ds = none := by
      intro ds h
      unfold fractionDigits?
      split
      · rename_i c rest
        rw [if_neg (by simp [h c rest rfl])]
      · rfl
    rw [hnone cs, hnone (plainNewlines cs)]
    · rfl
    · intro c rest heq
      by_contra hc
      have hdigit : isDigit c = true := by simpa using hc
      have hn : c ≠ '\n' := by
        rintro rfl
        cases hdigit
      obtain ⟨cs₁, rfl, heq₁⟩ := of_plainNewlines_eq_cons (by decide) heq
      obtain ⟨cs₂, rfl, -⟩ := of_plainNewlines_eq_cons hn heq₁.symm
      exact hpoint ⟨c, cs₂, rfl, hdigit⟩
    · intro c rest heq
      by_contra hc
      exact hpoint ⟨c, rest, heq, by simpa using hc⟩

/-! ### Exponents -/

/-- The sign of an exponent, whether it is negative, and what follows it. -/
def exponentSign : List Char → Bool × List Char
  | '-' :: cs => (true, cs)
  | '+' :: cs => (false, cs)
  | cs => (false, cs)

theorem exponentSign_of {cs : List Char} (hminus : ∀ rest, cs ≠ '-' :: rest)
    (hplus : ∀ rest, cs ≠ '+' :: rest) : exponentSign cs = (false, cs) := by
  unfold exponentSign
  split
  · exact absurd rfl (hminus _)
  · exact absurd rfl (hplus _)
  · rfl

theorem exponentSign_plainNewlines (cs : List Char) :
    exponentSign (plainNewlines cs) =
      ((exponentSign cs).1, plainNewlines (exponentSign cs).2) := by
  by_cases hminus : ∃ rest, cs = '-' :: rest
  · obtain ⟨rest, rfl⟩ := hminus
    rw [plainNewlines_cons (by decide)]
    rfl
  by_cases hplus : ∃ rest, cs = '+' :: rest
  · obtain ⟨rest, rfl⟩ := hplus
    rw [plainNewlines_cons (by decide)]
    rfl
  have hplain : ∀ {c : Char}, c ≠ '\n' → (¬∃ rest, cs = c :: rest) →
      ∀ rest, plainNewlines cs ≠ c :: rest := by
    intro c hc hcs rest heq
    obtain ⟨before, hbefore, -⟩ := of_plainNewlines_eq_cons hc heq
    exact hcs ⟨before, hbefore⟩
  rw [exponentSign_of (fun rest h => hminus ⟨rest, h⟩) fun rest h => hplus ⟨rest, h⟩,
    exponentSign_of (hplain (by decide) hminus) (hplain (by decide) hplus)]

theorem exponent?_cons (e : Char) (cs : List Char) :
    exponent? (e :: cs) =
      if e == 'e' || e == 'E' then
        match (exponentSign cs).2.span isDigit with
        | ([], _) => none
        | (ds, after) =>
          some (if (exponentSign cs).1 then -(digitsValue ds : Int) else digitsValue ds, after)
      else none :=
  rfl

theorem exponent?_plainNewlines (cs : List Char) :
    exponent? (plainNewlines cs) = (exponent? cs).map fun p => (p.1, plainNewlines p.2) := by
  cases cs with
  | nil => rfl
  | cons e cs =>
      by_cases hr : e = '\r'
      · obtain ⟨rest, heq, -⟩ := Text.exists_plainNewlines_return cs
        rw [hr, heq]
        rfl
      rw [plainNewlines_cons hr, exponent?_cons, exponent?_cons, exponentSign_plainNewlines,
        Text.span_plainNewlines isDigit_lineEnd.1 isDigit_lineEnd.2]
      split
      · rcases (exponentSign cs).2.span isDigit with ⟨_ | ⟨d, ds⟩, after⟩ <;> rfl
      · rfl

/-! ### Numbers -/

/-- A number without its sign. -/
def unsigned (limit? : Option Nat) (negative : Bool) (place : Nat) (body : List Char) :
    Except Trouble (Value × List Char) :=
  match wholeDigits? body with
  | none => .error (.valueExpected, place)
  | some (whole, rest) =>
    let (fraction, rest₁) := (fractionDigits? rest).getD ([], rest)
    match exponent? rest₁ with
    | some (e, rest₂) =>
      .ok (.float (.ofDecimal negative (digitsValue (whole ++ fraction)) (e - fraction.length)),
        rest₂)
    | none =>
      if fraction.isEmpty then
        match tooLong? limit? whole with
        | some problem => .error (problem, place)
        | none =>
          let n : Int := digitsValue whole
          .ok (.int (if negative then -n else n), rest₁)
      else
        .ok (.float (.ofDecimal negative (digitsValue (whole ++ fraction)) (-fraction.length)),
          rest₁)

variable {limit? : Option Nat}

theorem number_minus (cs : List Char) :
    number limit? ('-' :: cs) = unsigned limit? true (cs.length + 1) cs := rfl

theorem number_of {cs : List Char} (h : ∀ rest, cs ≠ '-' :: rest) :
    number limit? cs = unsigned limit? false cs.length cs := by
  unfold number
  split
  rename_i negative body heq
  split at heq
  · exact absurd rfl (h _)
  · obtain ⟨rfl, rfl⟩ := Prod.mk.inj heq
    rfl

theorem readsAlike_unsigned (negative : Bool) (m n : Nat) (cs : List Char) :
    ReadsAlike (unsigned limit? negative m cs) (unsigned limit? negative n (plainNewlines cs)) := by
  unfold unsigned
  rw [wholeDigits?_plainNewlines]
  cases hwhole : wholeDigits? cs with
  | none => exact .error _ _ _
  | some p =>
      obtain ⟨whole, rest⟩ := p
      simp only [Option.map_some]
      have hfraction : (fractionDigits? (plainNewlines rest)).getD ([], plainNewlines rest) =
          (((fractionDigits? rest).getD ([], rest)).1,
            plainNewlines ((fractionDigits? rest).getD ([], rest)).2) := by
        rw [fractionDigits?_plainNewlines]
        cases fractionDigits? rest <;> rfl
      rw [hfraction]
      obtain ⟨fraction, rest₁⟩ := (fractionDigits? rest).getD ([], rest)
      simp only [exponent?_plainNewlines]
      cases exponent? rest₁ with
      | some p => exact .ok _ _
      | none =>
          simp only [Option.map_none]
          split
          · cases tooLong? limit? whole with
            | none => exact .ok _ _
            | some problem => exact .error _ _ _
          · exact .ok _ _

theorem length_span_lt {p : Char → Bool} {c : Char} (h : p c = true) (cs : List Char) :
    ((c :: cs).span p).2.length < (c :: cs).length := by
  rw [List.span_eq_takeWhile_dropWhile, List.dropWhile_cons_of_pos h, List.length_cons]
  exact Nat.lt_succ_of_le ((List.dropWhile_suffix p).length_le)

theorem length_of_wholeDigits? {cs ds rest : List Char} (h : wholeDigits? cs = some (ds, rest)) :
    rest.length < cs.length := by
  unfold wholeDigits? at h
  split at h
  · obtain ⟨-, rfl⟩ := Prod.mk.inj (Option.some.inj h)
    exact Nat.lt_succ_self _
  · split at h
    · rename_i c cs _ hc
      have hspan := length_span_lt hc cs
      rwa [Option.some.inj h] at hspan
    · cases h
  · cases h

theorem length_of_fractionDigits? {cs ds rest : List Char}
    (h : fractionDigits? cs = some (ds, rest)) : rest.length < cs.length := by
  unfold fractionDigits? at h
  split at h
  · split at h
    · rename_i c cs hc
      have hspan := length_span_lt hc cs
      rw [Option.some.inj h] at hspan
      exact Nat.lt_succ_of_lt hspan
    · cases h
  · cases h

theorem length_exponentSign_le (cs : List Char) : (exponentSign cs).2.length ≤ cs.length := by
  unfold exponentSign
  split
  · exact Nat.le_succ _
  · exact Nat.le_succ _
  · exact Nat.le_refl _

theorem length_of_exponent? {cs rest : List Char} {e : Int} (h : exponent? cs = some (e, rest)) :
    rest.length < cs.length := by
  cases cs with
  | nil => cases h
  | cons c cs =>
      rw [exponent?_cons] at h
      split at h
      · have hsign := length_exponentSign_le cs
        have hspan : ((exponentSign cs).2.span isDigit).2.length ≤ (exponentSign cs).2.length := by
          rw [List.span_eq_takeWhile_dropWhile]
          exact (List.dropWhile_suffix isDigit).length_le
        split at h
        · cases h
        · rename_i ds after _ heq
          obtain ⟨-, rfl⟩ := Prod.mk.inj (Option.some.inj h)
          rw [heq] at hspan
          exact Nat.lt_succ_of_le (Nat.le_trans hspan hsign)
      · cases h

theorem proceeds_unsigned (negative : Bool) (place : Nat) (cs : List Char) :
    Proceeds limit? cs.length (unsigned limit? negative place cs) := by
  unfold unsigned
  cases hwhole : wholeDigits? cs with
  | none => exact .error (.inl rfl) _
  | some p =>
      obtain ⟨whole, rest⟩ := p
      have hrest := length_of_wholeDigits? hwhole
      have hfraction : ((fractionDigits? rest).getD ([], rest)).2.length ≤ rest.length := by
        cases h : fractionDigits? rest with
        | none => exact Nat.le_refl _
        | some p => exact Nat.le_of_lt (length_of_fractionDigits? h)
      obtain ⟨fraction, rest₁, heq⟩ : ∃ fraction rest₁,
        (fractionDigits? rest).getD ([], rest) = (fraction, rest₁) := ⟨_, _, rfl⟩
      rw [heq] at hfraction
      have hrest₁ : rest₁.length < cs.length := Nat.lt_of_le_of_lt hfraction hrest
      simp only [heq]
      cases hexponent : exponent? rest₁ with
      | some p => exact .ok (Nat.lt_trans (length_of_exponent? hexponent) hrest₁)
      | none =>
          simp only
          split
          · cases htoo : tooLong? limit? whole with
            | none => exact .ok hrest₁
            | some problem =>
                obtain ⟨limit, hlimit, hproblem⟩ := Option.bind_eq_some_iff.1 htoo
                split at hproblem
                · next hdigits =>
                    cases hproblem
                    exact .error (.inr ⟨hlimit, hdigits⟩) _
                · cases hproblem
          · exact .ok hrest₁

theorem readsAlike_number (cs : List Char) :
    ReadsAlike (number limit? cs) (number limit? (plainNewlines cs)) := by
  by_cases hminus : ∃ rest, cs = '-' :: rest
  · obtain ⟨rest, rfl⟩ := hminus
    rw [plainNewlines_cons (by decide), number_minus, number_minus]
    exact readsAlike_unsigned true _ _ rest
  · have hplain : ∀ rest, plainNewlines cs ≠ '-' :: rest := by
      intro rest heq
      obtain ⟨before, hbefore, -⟩ := of_plainNewlines_eq_cons (by decide) heq
      exact hminus ⟨before, hbefore⟩
    rw [number_of fun rest h => hminus ⟨rest, h⟩, number_of hplain]
    exact readsAlike_unsigned false _ _ cs

theorem proceeds_number (cs : List Char) : Proceeds limit? cs.length (number limit? cs) := by
  by_cases hminus : ∃ rest, cs = '-' :: rest
  · obtain ⟨rest, rfl⟩ := hminus
    rw [number_minus]
    exact (proceeds_unsigned true _ rest).mono (Nat.le_succ _)
  · rw [number_of fun rest h => hminus ⟨rest, h⟩]
    exact proceeds_unsigned false _ cs

end ForumMarkup.Json
