import ForumMarkup.Value.Basic
/-
**Entries by name.**

Objects and properties are lists of entries, and the first entry of a name is the one that counts.

Main results:

* `ForumMarkup.lookupEntry_append`, `ForumMarkup.lookupEntry_between` — what is found in a list of
  entries, by its parts;
* `ForumMarkup.mem_of_lookupEntry`, `ForumMarkup.mem_keys_of_lookupEntry`,
  `ForumMarkup.exists_lookupEntry_of_mem_keys` — what is found is there, and a name that is there is
  found;
* `ForumMarkup.putEntry_of_notMem`, `ForumMarkup.lookupEntry_putEntry`,
  `ForumMarkup.putEntry_putEntry` — a new name is put at the end, what is put under a name is found
  there, and it takes the place of what was put there before;
* `ForumMarkup.lookupEntry_dropEntry` — the other names are left when one is dropped.
-/

set_option autoImplicit false

namespace ForumMarkup

variable {α : Type}

theorem lookupEntry_append (name : String) (entries others : List (String × α)) :
    lookupEntry name (entries ++ others) =
      (lookupEntry name entries).or (lookupEntry name others) := by
  induction entries with
  | nil => rfl
  | cons entry entries ih =>
      obtain ⟨k, v⟩ := entry
      by_cases hk : k = name
      · simp [lookupEntry, hk]
      · simp [lookupEntry, hk, ih]

/-- An entry between others is found under its name, or makes no difference. -/
theorem lookupEntry_between (name k : String) (front back : List (String × α)) :
    (name = k ∧ ∀ v, lookupEntry name (front ++ (k, v) :: back) = some v) ∨
      ∀ v, lookupEntry name (front ++ (k, v) :: back) = lookupEntry name (front ++ back) := by
  by_cases hk : k = name
  · cases hfront : lookupEntry name front with
    | none => exact .inl ⟨hk.symm, fun v => by simp [lookupEntry_append, hfront, lookupEntry, hk]⟩
    | some w => exact .inr fun v => by simp [lookupEntry_append, hfront]
  · exact .inr fun v => by simp [lookupEntry_append, lookupEntry, hk]

theorem mem_of_lookupEntry {name : String} {entries : List (String × α)} {a : α}
    (h : lookupEntry name entries = some a) : (name, a) ∈ entries := by
  induction entries with
  | nil => cases h
  | cons e entries ih =>
      obtain ⟨k, b⟩ := e
      rw [lookupEntry] at h
      split at h
      · rename_i hk
        cases h
        rw [eq_of_beq hk]
        exact List.mem_cons_self
      · exact List.mem_cons_of_mem _ (ih h)

theorem mem_keys_of_lookupEntry {name : String} {entries : List (String × α)}
    (h : (lookupEntry name entries).isSome = true) : name ∈ entries.map Prod.fst := by
  obtain ⟨a, ha⟩ := Option.isSome_iff_exists.1 h
  exact List.mem_map_of_mem (mem_of_lookupEntry ha)

theorem exists_lookupEntry_of_mem_keys {name : String} {entries : List (String × α)}
    (h : name ∈ entries.map Prod.fst) : ∃ a, lookupEntry name entries = some a := by
  induction entries with
  | nil => cases h
  | cons entry entries ih =>
      obtain ⟨k, a⟩ := entry
      by_cases hk : k = name
      · exact ⟨a, by simp [lookupEntry, hk]⟩
      · obtain ⟨b, hb⟩ := ih ((List.mem_cons.1 h).resolve_left fun e => hk e.symm)
        exact ⟨b, by simp [lookupEntry, hk, hb]⟩

/-- A new name is put at the end. -/
theorem putEntry_of_notMem {name : String} {entries : List (String × α)}
    (h : name ∉ entries.map Prod.fst) (v : α) :
    putEntry name v entries = entries ++ [(name, v)] := by
  induction entries with
  | nil => rfl
  | cons entry entries ih =>
      obtain ⟨k, w⟩ := entry
      obtain ⟨hk, hrest⟩ := not_or.1 (mt List.mem_cons.2 h)
      have hne : ¬(k == name) = true := fun e => hk (eq_of_beq e).symm
      rw [putEntry, if_neg hne, ih hrest]
      rfl

theorem lookupEntry_putEntry (name : String) (v : α) (entries : List (String × α)) (k : String) :
    lookupEntry k (putEntry name v entries) =
      if k = name then some v else lookupEntry k entries := by
  induction entries with
  | nil =>
      by_cases hk : k = name
      · simp [putEntry, lookupEntry, hk]
      · have hname : ¬name = k := fun e => hk e.symm
        simp [putEntry, lookupEntry, hk, hname]
  | cons entry entries ih =>
      obtain ⟨l, w⟩ := entry
      by_cases hl : l = name
      · by_cases hk : k = name
        · simp [putEntry, lookupEntry, hl, hk]
        · have hname : ¬name = k := fun e => hk e.symm
          simp [putEntry, lookupEntry, hl, hk, hname]
      · by_cases hlk : l = k
        · have hk : ¬k = name := fun e => hl (hlk.trans e)
          simp [putEntry, lookupEntry, hlk, hk]
        · simp [putEntry, lookupEntry, hl, hlk, ih]

theorem putEntry_putEntry (name : String) (v w : α) (entries : List (String × α)) :
    putEntry name v (putEntry name w entries) = putEntry name v entries := by
  induction entries with
  | nil => simp [putEntry]
  | cons entry entries ih =>
      obtain ⟨k, u⟩ := entry
      by_cases hk : k = name
      · simp [putEntry, hk]
      · simp [putEntry, hk, ih]

theorem lookupEntry_dropEntry {name dropped : String} (h : name ≠ dropped)
    (entries : List (String × α)) :
    lookupEntry name (dropEntry dropped entries) = lookupEntry name entries := by
  induction entries with
  | nil => rfl
  | cons entry entries ih =>
      obtain ⟨k, v⟩ := entry
      by_cases hk : k = dropped
      · have hname : ¬dropped = name := fun e => h e.symm
        simp [dropEntry, lookupEntry, hk, hname]
      · simp [dropEntry, lookupEntry, hk, ih]

end ForumMarkup
