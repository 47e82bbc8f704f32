import ForumMarkup.Proofs.Json.Reading.Value
import ForumMarkup.Proofs.Value.Showable
import Mathlib.Data.Nat.Digits.Defs
/-
**What is read can be shown.**

An integer has no more digits when it is shown than in the source that it was read from.  So a value
that was read under a limit to the digits of an integer can be shown under that limit.

Main definitions:

* `ForumMarkup.Json.Gives` — a reading that gives nothing but results with a property.

Main results:

* `ForumMarkup.Json.gives_number` — a number that was read can be shown;
* `ForumMarkup.Json.gives_values` — and so can values, the entries of objects and the items of
  lists;
* `ForumMarkup.Json.isShowable_of_read` — **the value of a whole source can be shown**.
-/

set_option autoImplicit false

namespace ForumMarkup.Json

/-! ### Results with a property -/

/-- A reading that gives nothing but results with a property, if it gives any. -/
inductive Gives {α : Type} (P : α → Prop) : Except Trouble (α × List Char) → Prop
  | ok {a : α} {rest : List Char} (h : P a) : Gives P (.ok (a, rest))
  | error (trouble : Trouble) : Gives P (.error trouble)

namespace Gives

variable {α β : Type} {P : α → Prop} {Q : β → Prop}

theorem of_ok {a : α} {rest : List Char} (h : Gives P (.ok (a, rest))) : P a := by
  cases h with
  | ok h => exact h

/-- Every reading gives a result of some kind. -/
theorem trivial (x : Except Trouble (α × List Char)) : Gives (fun _ => True) x := by
  cases x with
  | error trouble => exact .error trouble
  | ok p => exact .ok True.intro

theorem bind {x : Except Trouble (α × List Char)}
    {f : α × List Char → Except Trouble (β × List Char)} (h : Gives P x)
    (hnext : ∀ a rest, P a → Gives Q (f (a, rest))) : Gives Q (x >>= f) := by
  cases h with
  | ok h => exact hnext _ _ h
  | error trouble => exact .error trouble

theorem map {x : Except Trouble (α × List Char)} {f : α → β} (h : Gives P x)
    (hf : ∀ a, P a → Q (f a)) : Gives Q (x.map fun p => (f p.1, p.2)) := by
  cases h with
  | ok h => exact .ok (hf _ h)
  | error trouble => exact .error trouble

theorem ifHead {c : Char} {f g : List Char → Except Trouble (α × List Char)} {cs : List Char}
    (hf : ∀ rest, Gives P (f rest)) (hg : Gives P (g cs)) : Gives P (ifHead c f g cs) := by
  by_cases h : ∃ rest, cs = c :: rest
  · obtain ⟨rest, rfl⟩ := h
    rw [ifHead_head]
    exact hf rest
  · rw [ifHead_of_ne fun rest heq => h ⟨rest, heq⟩]
    exact hg

theorem afterItem {close : Char} {closed next : List Char → Except Trouble (α × List Char)}
    (hclosed : ∀ r, Gives P (closed r)) (hnext : ∀ r, Gives P (next r)) (r : List Char) :
    Gives P (afterItem close closed next r) :=
  .ifHead hclosed (.ifHead (fun r => hnext (skipGap r)) (.error _))

theorem afterName {entry : List Char → Except Trouble (α × List Char)}
    (hentry : ∀ r, Gives P (entry r)) (r : List Char) : Gives P (afterName entry r) :=
  .ifHead (fun r => hentry (skipGap r)) (.error _)

end Gives

/-! ### Numbers -/

theorem digitsValue_lt {ds : List Char} (h : ∀ c ∈ ds, isDigit c = true) :
    digitsValue ds < 10 ^ ds.length := by
  have hfrom : ∀ n, ds.foldl (fun n c => n * 10 + (c.toNat - 48)) n < (n + 1) * 10 ^ ds.length := by
    induction ds with
    | nil => simp
    | cons c ds ih =>
        intro n
        obtain ⟨hc, hds⟩ := List.forall_mem_cons.1 h
        have hdigit : c.toNat - 48 ≤ 9 := by
          rw [isDigit, Bool.and_eq_true, decide_eq_true_eq, decide_eq_true_eq] at hc
          omega
        calc ds.foldl (fun n c => n * 10 + (c.toNat - 48)) (n * 10 + (c.toNat - 48))
            < (n * 10 + (c.toNat - 48) + 1) * 10 ^ ds.length := ih hds _
          _ ≤ (n + 1) * 10 * 10 ^ ds.length := Nat.mul_le_mul_right _ (by omega)
          _ = (n + 1) * 10 ^ (c :: ds).length := by
              rw [List.length_cons, Nat.pow_succ, Nat.mul_assoc, Nat.mul_comm 10]
  simpa [digitsValue] using hfrom 0

theorem wholeDigits?_digits {cs ds rest : List Char} (h : wholeDigits? cs = some (ds, rest)) :
    0 < ds.length ∧ ∀ c ∈ ds, isDigit c = true := by
  unfold wholeDigits? at h
  split at h
  · cases h
    exact ⟨Nat.one_pos, List.forall_mem_singleton.2 rfl⟩
  · rename_i c rest' _
    split at h
    · next hc =>
        rw [List.span_eq_takeWhile_dropWhile] at h
        cases h
        refine ⟨?_, List.all_eq_true.1 List.all_takeWhile⟩
        rw [List.takeWhile_cons_of_pos hc]
        exact Nat.succ_pos _
    · cases h
  · cases h

variable {limit? : Option Nat}

/-- An integer with no more digits than the limit can be shown. -/
theorem canShow_of_tooLong? {ds : List Char} (hpos : 0 < ds.length)
    (h : ∀ c ∈ ds, isDigit c = true) (hlimit : tooLong? limit? ds = none) (negative : Bool) :
    Text.canShow (if negative then -(digitsValue ds : Int) else digitsValue ds) limit? = true := by
  have hlength : (Nat.toDigits 10 (digitsValue ds)).length ≤ ds.length :=
    Nat.toDigits_length 10 _ _ hpos (digitsValue_lt h)
  cases limit? with
  | none => exact Text.canShow_none _
  | some limit =>
      have hle : ds.length ≤ limit := by simpa [tooLong?] using hlimit
      have hshown := Nat.le_trans hlength hle
      cases negative <;> simpa [Text.canShow] using hshown

theorem gives_unsigned (negative : Bool) (place : Nat) (cs : List Char) :
    Gives (fun v => v.isShowable limit? = true) (unsigned limit? negative place cs) := by
  unfold unsigned
  cases hwhole : wholeDigits? cs with
  | none => exact .error _
  | some p =>
      obtain ⟨whole, rest⟩ := p
      obtain ⟨hpos, hdigits⟩ := wholeDigits?_digits hwhole
      simp only
      split
      · exact .ok rfl
      · split
        · cases htoo : tooLong? limit? whole with
          | some problem => exact .error _
          | none => exact .ok (canShow_of_tooLong? hpos hdigits htoo negative)
        · exact .ok rfl

/-- A number that was read can be shown. -/
theorem gives_number (cs : List Char) :
    Gives (fun v => v.isShowable limit? = true) (number limit? cs) := by
  by_cases hminus : ∃ rest, cs = '-' :: rest
  · obtain ⟨rest, rfl⟩ := hminus
    rw [number_minus]
    exact gives_unsigned true _ rest
  · rw [number_of fun rest h => hminus ⟨rest, h⟩]
    exact gives_unsigned false _ cs

/-! ### Values -/

theorem gives_atom (cs : List Char) :
    Gives (fun v => v.isShowable limit? = true) (atom limit? cs) := by
  by_cases h : ∃ e ∈ words, ∃ rest, cs = e.1 ++ rest
  · obtain ⟨e, he, rest, rfl⟩ := h
    have hwords : ∀ e ∈ words, e.2.isShowable limit? = true := by simp [words, Value.isShowable]
    rw [atom_word he]
    exact .ok (hwords e he)
  · rw [atom_number fun e he rest heq => h ⟨e, he, rest, heq⟩]
    exact gives_number cs

theorem isShowable_putEntry {name : String} {v : Value} {es : List (String × Value)}
    (hv : v.isShowable limit? = true) (hes : ∀ e ∈ es, e.2.isShowable limit? = true) :
    ∀ e ∈ putEntry name v es, e.2.isShowable limit? = true := by
  induction es with
  | nil => simpa [putEntry] using hv
  | cons e es ih =>
      obtain ⟨he, hes⟩ := List.forall_mem_cons.1 hes
      rw [putEntry]
      split
      · exact List.forall_mem_cons.2 ⟨hv, hes⟩
      · exact List.forall_mem_cons.2 ⟨he, ih hes⟩

/-- Values, the entries of objects and the items of lists can be shown. -/
theorem gives_values (limit? : Option Nat) (fuel : Nat) :
    (∀ cs, Gives (fun v => v.isShowable limit? = true) (value limit? fuel cs)) ∧
    (∀ entries cs, (∀ e ∈ entries, e.2.isShowable limit? = true) →
      Gives (fun es => ∀ e ∈ es, e.2.isShowable limit? = true) (members limit? fuel entries cs)) ∧
    ∀ cs, Gives (fun vs => ∀ v ∈ vs, v.isShowable limit? = true) (elements limit? fuel cs) := by
  induction fuel with
  | zero => exact ⟨fun _ => .error _, fun _ _ _ => .error _, fun _ => .error _⟩
  | succ fuel ih =>
      obtain ⟨hvalue, hmembers, helements⟩ := ih
      refine ⟨fun cs => ?_, fun entries cs hentries => ?_, fun cs => ?_⟩
      · rw [value_succ]
        refine .ifHead (fun rest => ?_) (.ifHead (fun rest => ?_) (.ifHead (fun rest => ?_)
          (gives_atom cs)))
        · exact (Gives.trivial _).map fun points _ => Value.isShowable_ofPoints points limit?
        · refine .ifHead (fun _ => .ok rfl) ?_
          exact (hmembers [] _ nofun).map fun _ hes => Value.isShowable_object.2 hes
        · refine .ifHead (fun _ => .ok rfl) ?_
          exact (helements _).map fun _ hvs => Value.isShowable_list.2 hvs
      · rw [members_succ]
        refine .ifHead (fun rest => ?_) (.error _)
        refine (Gives.trivial _).bind fun name r _ => .afterName (fun r => ?_) r
        refine (hvalue r).bind fun v r hv => ?_
        have hput : ∀ e ∈ putEntry (Text.imageOf name) v entries, e.2.isShowable limit? = true :=
          isShowable_putEntry hv hentries
        exact .afterItem (fun _ => .ok hput) (fun r => hmembers _ r hput) r
      · rw [elements_succ]
        refine (hvalue cs).bind fun v r hv => .afterItem (fun _ => .ok ?_) (fun r => ?_) r
        · exact List.forall_mem_singleton.2 hv
        · exact (helements r).map fun _ hvs => List.forall_mem_cons.2 ⟨hv, hvs⟩

/-! ### Whole sources -/

/-- **The value of a source can be shown** under the limit under which it was read. -/
theorem isShowable_of_read {cs : List Char} {v : Value} (h : read limit? cs = .ok v) :
    v.isShowable limit? = true := by
  rw [read] at h
  split at h
  · cases h
  · rw [whole] at h
    simp only at h
    split at h
    · cases h
    · rename_i w rest hvalue
      split at h
      · cases h
        have hgives := (gives_values limit? (2 * cs.length + 2)).1 (skipGap cs)
        rw [hvalue] at hgives
        exact hgives.of_ok
      · cases h

end ForumMarkup.Json
