import ForumMarkup.Proofs.Value.Exact
/-
**Values that can be shown.**

A value can be shown exactly if each of its parts can, down to its integers.  Without a limit to the
digits of an integer every value can be shown.

Main results:

* `ForumMarkup.Value.isShowable_list`, `ForumMarkup.Value.isShowable_object` — the parts of a value;
* `ForumMarkup.Value.isShowable_none` — no limit.
-/

set_option autoImplicit false

namespace ForumMarkup

variable {limit? : Option Nat}

theorem Text.canShow_none (n : Int) : Text.canShow n none = true := rfl

theorem Value.showableItems_iff {vs : List Value} :
    Value.showableItems limit? vs = true ↔ ∀ v ∈ vs, v.isShowable limit? = true := by
  induction vs with
  | nil => simp [Value.showableItems]
  | cons v vs ih => simp [Value.showableItems, ih]

theorem Value.showableEntries_iff {es : List (String × Value)} :
    Value.showableEntries limit? es = true ↔ ∀ e ∈ es, e.2.isShowable limit? = true := by
  induction es with
  | nil => simp [Value.showableEntries]
  | cons e es ih => simp [Value.showableEntries, ih]

theorem Value.isShowable_list {vs : List Value} :
    (Value.list vs).isShowable limit? = true ↔ ∀ v ∈ vs, v.isShowable limit? = true := by
  rw [Value.isShowable, Value.showableItems_iff]

theorem Value.isShowable_object {es : List (String × Value)} :
    (Value.object es).isShowable limit? = true ↔ ∀ e ∈ es, e.2.isShowable limit? = true := by
  rw [Value.isShowable, Value.showableEntries_iff]

theorem Value.showable_none : ValueCases fun v => v.isShowable none = true where
  null := rfl
  bool _ := rfl
  int n := Text.canShow_none n
  float _ := rfl
  text _ := rfl
  illFormed _ := rfl
  list _ ih := Value.isShowable_list.2 ih
  object _ ih := Value.isShowable_object.2 ih

/-- Without a limit every value can be shown. -/
theorem Value.isShowable_none (v : Value) : v.isShowable none = true :=
  Value.showable_none.holds v

end ForumMarkup
