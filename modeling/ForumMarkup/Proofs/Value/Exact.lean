import ForumMarkup.Value.Basic
import Mathlib.Data.List.Nodup
/-
**Exact values.**

A value is exact when it has no floating-point number in it, no surrogate that stands alone, and no
object that names an entry twice.  The last is so of every value that was read; the others leave out
what the text of the value does not give back.

Main definitions:

* `ForumMarkup.ValueCases` — what has to be shown in an induction over values;
* `ForumMarkup.Value.isExact` — whether a value is exact.

Main results:

* `ForumMarkup.ValueCases.holds` — the induction.
-/

set_option autoImplicit false

namespace ForumMarkup

/-! ### Induction over values -/

/-- The cases of an induction over values: what is shown of the parts of a list or an object is
shown of the whole. -/
structure ValueCases (P : Value → Prop) : Prop where
  null : P .null
  bool : ∀ b, P (.bool b)
  int : ∀ n, P (.int n)
  float : ∀ x, P (.float x)
  text : ∀ s, P (.text s)
  illFormed : ∀ t, P (.illFormed t)
  list : ∀ vs, (∀ v ∈ vs, P v) → P (.list vs)
  object : ∀ es : List (String × Value), (∀ e ∈ es, P e.2) → P (.object es)

namespace ValueCases

variable {P : Value → Prop}

mutual
theorem holds (h : ValueCases P) : ∀ v : Value, P v
  | .null => h.null
  | .bool b => h.bool b
  | .int n => h.int n
  | .float x => h.float x
  | .text s => h.text s
  | .illFormed t => h.illFormed t
  | .list vs => h.list vs (holds_items h vs)
  | .object es => h.object es (holds_entries h es)
  termination_by structural v => v
theorem holds_items (h : ValueCases P) : ∀ vs : List Value, ∀ v ∈ vs, P v
  | [] => fun _ hv => nomatch hv
  | v :: vs => List.forall_mem_cons.2 ⟨holds h v, holds_items h vs⟩
  termination_by structural vs => vs
theorem holds_entries (h : ValueCases P) : ∀ es : List (String × Value), ∀ e ∈ es, P e.2
  | [] => fun _ he => nomatch he
  | (_, v) :: es => List.forall_mem_cons.2 ⟨holds h v, holds_entries h es⟩
  termination_by structural es => es
end

end ValueCases

/-! ### Exact values -/

mutual
/-- Whether a value has no floating-point number and no ill-formed text in it, and no object that
names an entry twice. -/
def Value.isExact : Value → Bool
  | .float _ => false
  | .illFormed _ => false
  | .list vs => exactItems vs
  | .object es => decide (es.map Prod.fst).Nodup && exactEntries es
  | _ => true
/-- Whether all items of a list are exact. -/
def exactItems : List Value → Bool
  | [] => true
  | v :: vs => v.isExact && exactItems vs
/-- Whether the values of all entries are exact. -/
def exactEntries : List (String × Value) → Bool
  | [] => true
  | (_, v) :: es => v.isExact && exactEntries es
end

theorem exactItems_iff {vs : List Value} :
    exactItems vs = true ↔ ∀ v ∈ vs, v.isExact = true := by
  induction vs with
  | nil => simp [exactItems]
  | cons v vs ih => simp [exactItems, ih]

theorem exactEntries_iff {es : List (String × Value)} :
    exactEntries es = true ↔ ∀ e ∈ es, e.2.isExact = true := by
  induction es with
  | nil => simp [exactEntries]
  | cons e es ih => simp [exactEntries, ih]

theorem Value.isExact_list {vs : List Value} :
    (Value.list vs).isExact = true ↔ ∀ v ∈ vs, v.isExact = true := by
  rw [Value.isExact, exactItems_iff]

theorem Value.isExact_object {es : List (String × Value)} :
    (Value.object es).isExact = true ↔
      (es.map Prod.fst).Nodup ∧ ∀ e ∈ es, e.2.isExact = true := by
  rw [Value.isExact, Bool.and_eq_true, decide_eq_true_eq, exactEntries_iff]

end ForumMarkup
