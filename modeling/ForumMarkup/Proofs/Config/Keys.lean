import ForumMarkup.Config.File
import ForumMarkup.Proofs.Document.Serial
import ForumMarkup.Proofs.Options
/-
**The keys of configuration files.**

A mapping in a TOML or JSON file has texts for keys, at every level: each statement of a TOML text
adds entries with texts for keys to tables that have no other keys, and the entries of a JSON object
have names.  So if the mapping of a configuration file has a key that is no text, the file is YAML.

Main definitions:

* `ForumMarkup.Setting.Worded` — all keys in a setting are texts;
* `ForumMarkup.Toml.ReadsWorded` — what the readers of TOML values give has such keys.

Main results:

* `ForumMarkup.Toml.worded_alter` — a change of one table in a table;
* `ForumMarkup.Toml.readsWorded`, `ForumMarkup.Toml.worded_statement`,
  `ForumMarkup.Toml.worded_read` — values, statements and whole texts of TOML;
* `ForumMarkup.Setting.worded_ofValue` — values of JSON;
* `ForumMarkup.yaml_of_oddKey` — **only a YAML file has a mapping with another key**.
-/

set_option autoImplicit false

namespace ForumMarkup

/-! ### Settings with texts for keys -/

/-- All keys in a setting are texts, at every level. -/
inductive Setting.Worded : Setting → Prop
  | scalar {v : Setting} (h : v.isKey = true) : Worded v
  | list {items : List Setting} (h : ∀ v ∈ items, Worded v) : Worded (.list items)
  | mapping {entries : List (Setting × Setting)} (hkeys : ∀ e ∈ entries, e.1.isText = true)
      (h : ∀ e ∈ entries, Worded e.2) : Worded (.mapping entries)

namespace Setting

theorem worded_mapping {t : List (Setting × Setting)} :
    Worded (.mapping t) ↔ ∀ e ∈ t, e.1.isText = true ∧ Worded e.2 := by
  constructor
  · intro h e he
    cases h with
    | scalar h => cases h
    | mapping hkeys h => exact ⟨hkeys e he, h e he⟩
  · exact fun h => .mapping (fun e he => (h e he).1) fun e he => (h e he).2

theorem worded_empty : Worded (.mapping []) := .mapping (by simp) (by simp)

theorem Worded.of_mem_list {items : List Setting} (h : Worded (.list items)) :
    ∀ v ∈ items, Worded v := by
  cases h with
  | scalar h => cases h
  | list h => exact h

theorem Worded.putKey {t : List (Setting × Setting)} (ht : Worded (.mapping t)) (name : String)
    {v : Setting} (hv : Worded v) : Worded (.mapping (putKey (.text name) v t)) := by
  rw [worded_mapping] at ht ⊢
  induction t with
  | nil => simpa [ForumMarkup.putKey, isText] using hv
  | cons e t ih =>
      obtain ⟨k, w⟩ := e
      obtain ⟨hfirst, hrest⟩ := List.forall_mem_cons.1 ht
      rw [ForumMarkup.putKey]
      split
      · exact List.forall_mem_cons.2 ⟨⟨hfirst.1, hv⟩, hrest⟩
      · exact List.forall_mem_cons.2 ⟨hfirst, ih hrest⟩

theorem Worded.lookup? {t : List (Setting × Setting)} (ht : Worded (.mapping t)) {name : String}
    {v : Setting} (h : (Setting.mapping t).lookup? name = some v) : Worded v := by
  obtain ⟨e, he, rfl⟩ := Option.map_eq_some_iff.1 h
  exact (worded_mapping.1 ht e (List.mem_of_find?_eq_some he)).2

theorem Worded.oddKey?_eq_none {t : List (Setting × Setting)} (ht : Worded (.mapping t)) :
    oddKey? t = none := by
  have hkeys : ∀ e ∈ t, e.1.isText = true := fun e he => (worded_mapping.1 ht e he).1
  simpa [oddKey?, List.find?_eq_none] using hkeys

mutual
/-- Values have names for keys. -/
theorem worded_ofValue : ∀ v : Value, Worded (ofValue v)
  | .null => .scalar rfl
  | .bool _ => .scalar rfl
  | .int _ => .scalar rfl
  | .float _ => .scalar rfl
  | .text _ => .scalar rfl
  | .illFormed _ => .scalar rfl
  | .list items => .list (worded_ofItems items)
  | .object entries => worded_mapping.2 (worded_ofEntries entries)
theorem worded_ofItems : ∀ items : List Value, ∀ v ∈ ofItems items, Worded v
  | [] => by simp [ofItems]
  | item :: items => by
      rw [ofItems]
      exact List.forall_mem_cons.2 ⟨worded_ofValue item, worded_ofItems items⟩
theorem worded_ofEntries : ∀ entries : List (String × Value),
    ∀ e ∈ ofEntries entries, e.1.isText = true ∧ Worded e.2
  | [] => by simp [ofEntries]
  | (_, v) :: entries => by
      rw [ofEntries]
      exact List.forall_mem_cons.2 ⟨⟨rfl, worded_ofValue v⟩, worded_ofEntries entries⟩
end

end Setting

/-! ### TOML -/

namespace Toml

open Setting

theorem wellFormed_eq_ok {α : Type} {a? : Option α} {a : α} :
    wellFormed a? = .ok a ↔ a? = some a := by
  cases a? <;> simp [wellFormed]

section

variable {t t' : Table}

/-- A change of a table that keeps texts for keys keeps them wherever the table stands. -/
theorem worded_alter {lists : Bool} {change : Table → Option Table}
    (hchange : ∀ {t t'}, Worded (.mapping t) → change t = some t' → Worded (.mapping t'))
    {k : Key} (ht : Worded (.mapping t)) (h : alter lists change k t = some t') :
    Worded (.mapping t') := by
  induction k generalizing t t' with
  | nil => exact hchange ht h
  | cons name k ih =>
      rw [alter] at h
      split at h
      · obtain ⟨inner, hinner, rfl⟩ := Option.map_eq_some_iff.1 h
        exact ht.putKey name (ih worded_empty hinner)
      · next hentry =>
          obtain ⟨inner, hinner, rfl⟩ := Option.map_eq_some_iff.1 h
          exact ht.putKey name (ih (ht.lookup? hentry) hinner)
      · next items hentry =>
          -- A list of tables stands for its last table, and the others stay as they are.
          have hitems := (ht.lookup? hentry).of_mem_list
          split at h
          · split at h
            · next last hlast =>
                obtain ⟨inner, hinner, rfl⟩ := Option.map_eq_some_iff.1 h
                have hinner' := ih (hitems _ (List.mem_of_getLast? hlast)) hinner
                refine ht.putKey name (.list fun v hv => ?_)
                rcases List.mem_append.1 hv with hv | hv
                · exact hitems v (List.dropLast_subset _ hv)
                · rw [List.mem_singleton.1 hv]
                  exact hinner'
            · cases h
          · cases h
      · cases h

theorem worded_addEntry {name : String} {v : Setting} (hv : Worded v)
    (ht : Worded (.mapping t)) (h : addEntry name v t = some t') : Worded (.mapping t') := by
  rw [addEntry] at h
  split at h
  · cases h
    exact ht.putKey name hv
  · cases h

theorem worded_addTable {name : String} (ht : Worded (.mapping t))
    (h : State.addTable name t = some t') : Worded (.mapping t') := by
  rw [State.addTable] at h
  split at h
  · cases h
    exact ht.putKey name (.list (by simpa using worded_empty))
  · next items hentry =>
      cases h
      refine ht.putKey name (.list fun v hv => ?_)
      rcases List.mem_append.1 hv with hv | hv
      · exact (ht.lookup? hentry).of_mem_list v hv
      · rw [List.mem_singleton.1 hv]
        exact worded_empty
  · cases h

end

/-! ### Values -/

theorem worded_decimal? {cs r r' : List Char} {found : Except Fault Setting} {v : Setting}
    (h : decimal? cs = some (found, r)) (hv : found.map (fun v => (v, r)) = .ok (v, r')) :
    v.Worded := by
  unfold decimal? at h
  obtain ⟨⟨ds, r₁⟩, -, h⟩ := Option.bind_eq_some_iff.1 h
  simp only at h
  split at h
  · cases h
    cases hv
    exact .scalar rfl
  · split at h
    · cases h
      rw [integer] at hv
      split at hv
      · cases hv
      · cases hv
        exact .scalar rfl
    · cases h
      cases hv
      exact .scalar rfl

theorem worded_word? {cs r : List Char} {v : Setting} (h : word? cs = some (v, r)) :
    v.Worded := by
  rw [word?] at h
  cases Numeral.sign cs
  simp only at h
  split at h
  · cases h
    exact .scalar rfl
  · cases h
    exact .scalar rfl
  · cases h

theorem worded_number {cs r : List Char} {v : Setting} (h : number cs = .ok (v, r)) :
    v.Worded := by
  rw [number] at h
  split at h
  · cases h
    exact .scalar rfl
  · split at h
    · next hdecimal => exact worded_decimal? hdecimal h
    · exact worded_word? (wellFormed_eq_ok.1 h)

theorem worded_time? {cs r : List Char} {v : Setting} (h : time? cs = some (some v, r)) :
    v.Worded := by
  have hday : ∀ {day? : Option Day} {f : Day → Setting}, (∀ day, (f day).isKey = true) →
      day?.map f = some v → v.Worded := by
    rintro day? f hf hv
    obtain ⟨day, -, rfl⟩ := Option.map_eq_some_iff.1 hv
    exact .scalar (hf day)
  rw [time?] at h
  split at h
  · obtain ⟨⟨clock, r'⟩, -, h⟩ := Option.map_eq_some_iff.1 h
    cases h
    exact .scalar rfl
  · simp only at h
    split at h
    · simp only [Option.some.injEq, Prod.mk.injEq] at h
      exact hday (fun _ => rfl) h.1
    · simp only [Option.some.injEq, Prod.mk.injEq] at h
      exact hday (fun _ => rfl) h.1

/-- What the readers of values give has texts for keys. -/
structure ReadsWorded (fuel : Nat) : Prop where
  value : ∀ {cs v r}, Toml.value fuel cs = .ok (v, r) → v.Worded
  elements : ∀ {cs vs r}, Toml.elements fuel cs = .ok (vs, r) → ∀ v ∈ vs, v.Worded
  members : ∀ {t frozen cs t' r}, Worded (.mapping t) →
    Toml.members fuel t frozen cs = .ok (t', r) → Worded (.mapping t')

theorem worded_value_succ {fuel : Nat} (ih : ReadsWorded fuel) {cs r : List Char} {v : Setting}
    (h : value (fuel + 1) cs = .ok (v, r)) : v.Worded := by
  unfold value at h
  split at h
  · cases h
    exact .scalar rfl
  · cases h
    exact .scalar rfl
  · obtain ⟨rest, -, h⟩ := bind_eq_ok.1 h
    obtain ⟨⟨items, r'⟩, hitems, h⟩ := bind_eq_ok.1 h
    cases h
    exact .list (ih.elements hitems)
  · split at h
    · cases h
      exact worded_empty
    · obtain ⟨⟨t, r'⟩, hmembers, h⟩ := bind_eq_ok.1 h
      cases h
      exact ih.members worded_empty hmembers
  · split at h
    · cases h
      exact .scalar rfl
    · next found? r' _ htime =>
        obtain ⟨v', hfound, hv⟩ := Option.map_eq_some_iff.1 (wellFormed_eq_ok.1 h)
        cases hv
        subst hfound
        exact worded_time? htime
    · exact worded_number h

theorem worded_elements_succ {fuel : Nat} (ih : ReadsWorded fuel) {cs r : List Char}
    {vs : List Setting} (h : elements (fuel + 1) cs = .ok (vs, r)) : ∀ v ∈ vs, v.Worded := by
  unfold elements at h
  split at h
  · cases h
    simp
  · obtain ⟨⟨v, r₁⟩, hv, h⟩ := bind_eq_ok.1 h
    obtain ⟨r₂, -, h⟩ := bind_eq_ok.1 h
    split at h
    · cases h
      simpa using ih.value hv
    · obtain ⟨r₃, -, h⟩ := bind_eq_ok.1 h
      obtain ⟨⟨vs', r₄⟩, hvs, h⟩ := bind_eq_ok.1 h
      cases h
      exact List.forall_mem_cons.2 ⟨ih.value hv, ih.elements hvs⟩
    · cases h

theorem worded_members_succ {fuel : Nat} (ih : ReadsWorded fuel) {t t' : Table}
    {frozen : List Key} {cs r : List Char} (ht : Worded (.mapping t))
    (h : members (fuel + 1) t frozen cs = .ok (t', r)) : Worded (.mapping t') := by
  rw [members] at h
  obtain ⟨⟨k, r₁⟩, -, h⟩ := bind_eq_ok.1 h
  simp only at h
  split at h
  · obtain ⟨⟨v, r₂⟩, hv, h⟩ := bind_eq_ok.1 h
    simp only at h
    split at h
    · cases h
    · obtain ⟨t₁, ht₁, h⟩ := bind_eq_ok.1 h
      have hworded : Worded (.mapping t₁) :=
        worded_alter (worded_addEntry (ih.value hv)) ht (wellFormed_eq_ok.1 ht₁)
      split at h
      · cases h
        exact hworded
      · exact ih.members hworded h
      · cases h
  · cases h

/-- Values, items and entries of any length have texts for keys. -/
theorem readsWorded (fuel : Nat) : ReadsWorded fuel := by
  -- The three readers call each other with one step less.
  induction fuel with
  | zero =>
      constructor
      · intro cs v r h
        cases h
      · intro cs vs r h
        cases h
      · intro t frozen cs t' r _ h
        cases h
  | succ fuel ih =>
      exact ⟨worded_value_succ ih, worded_elements_succ ih, worded_members_succ ih⟩

/-! ### Statements -/

section

variable {s s' : State}

theorem worded_assign {k : Key} {v : Setting} (hs : Worded (.mapping s.table)) (hv : Worded v)
    (h : s.assign k v = some s') : Worded (.mapping s'.table) := by
  rw [State.assign] at h
  simp only [Option.ite_none_left_eq_some] at h
  obtain ⟨table, htable, h⟩ := Option.bind_eq_some_iff.1 h.2.2
  cases h
  exact worded_alter (worded_addEntry hv) hs htable

theorem worded_openTable {k : Key} (hs : Worded (.mapping s.table))
    (h : s.openTable k = some s') : Worded (.mapping s'.table) := by
  rw [State.openTable, Option.ite_none_left_eq_some] at h
  obtain ⟨table, htable, h⟩ := Option.bind_eq_some_iff.1 h.2
  cases h
  refine worded_alter ?_ hs htable
  rintro t t' ht ⟨⟩
  exact ht

theorem worded_openListTable {k : Key} (hs : Worded (.mapping s.table))
    (h : s.openListTable k = some s') : Worded (.mapping s'.table) := by
  rw [State.openListTable, Option.ite_none_left_eq_some] at h
  obtain ⟨table, htable, h⟩ := Option.bind_eq_some_iff.1 h.2
  cases h
  exact worded_alter worded_addTable hs htable

/-- One statement. -/
theorem worded_statement {cs r : List Char} (hs : Worded (.mapping s.table))
    (h : statement s cs = .ok (s', r)) : Worded (.mapping s'.table) := by
  unfold statement at h
  split at h
  · obtain ⟨⟨k, r₁⟩, -, h⟩ := bind_eq_ok.1 h
    simp only at h
    split at h
    · obtain ⟨s₁, hs₁, h⟩ := bind_eq_ok.1 h
      cases h
      exact worded_openListTable (s := s.settle) hs (wellFormed_eq_ok.1 hs₁)
    · cases h
  · obtain ⟨⟨k, r₁⟩, -, h⟩ := bind_eq_ok.1 h
    simp only at h
    split at h
    · obtain ⟨s₁, hs₁, h⟩ := bind_eq_ok.1 h
      cases h
      exact worded_openTable (s := s.settle) hs (wellFormed_eq_ok.1 hs₁)
    · cases h
  · cases h
    exact hs
  · obtain ⟨⟨k, r₁⟩, -, h⟩ := bind_eq_ok.1 h
    simp only at h
    split at h
    · obtain ⟨⟨v, r₂⟩, hv, h⟩ := bind_eq_ok.1 h
      obtain ⟨s₁, hs₁, h⟩ := bind_eq_ok.1 h
      cases h
      exact worded_assign hs ((readsWorded _).value hv) (wellFormed_eq_ok.1 hs₁)
    · cases h

/-- All statements. -/
theorem worded_statements {fuel : Nat} {cs : List Char} (hs : Worded (.mapping s.table))
    (h : statements fuel s cs = .ok s') : Worded (.mapping s'.table) := by
  induction fuel generalizing s cs with
  | zero => cases h
  | succ fuel ih =>
      rw [statements] at h
      split at h
      · cases h
        exact hs
      · exact ih hs h
      · obtain ⟨⟨s₁, r₁⟩, hs₁, h⟩ := bind_eq_ok.1 h
        obtain ⟨r₂, -, h⟩ := bind_eq_ok.1 h
        have hworded := worded_statement hs hs₁
        split at h
        · cases h
          exact hworded
        · exact ih hworded h
        · cases h

end

/-- **The keys of a TOML text are texts.** -/
theorem worded_read {source : List Char} {t : Table} (h : read source = .ok t) :
    Worded (.mapping t) := by
  obtain ⟨s, hs, rfl⟩ := map_eq_ok.1 h
  exact worded_statements worded_empty hs

end Toml

/-! ### Files -/

section

variable {files : FileTree} {directory : List String} {p : Path} {c : ConfigEntries}
  {yaml : List UInt8 → Except ContentFault Setting}

theorem worded_readToml {bytes : List UInt8} {t : Toml.Table} (h : readToml bytes = .ok t) :
    Setting.Worded (.mapping t) := by
  rw [readToml] at h
  split at h
  · cases h
  · next cs _ =>
      cases hread : Toml.read cs with
      | error fault =>
          rw [hread] at h
          cases h
      | ok t' =>
          rw [hread] at h
          cases h
          exact Toml.worded_read hread

theorem worded_projectSection
    (h : projectSection files directory p { ConfigReaders.standard with yaml := yaml } = .ok c) :
    Setting.Worded (.mapping c) := by
  rw [projectSection] at h
  split at h
  · cases h
  · split at h
    · cases h
    · cases h
    · cases h
    · next table htable =>
        have hworded := worded_readToml htable
        rw [toolSection] at h
        split at h
        · cases h
          exact Setting.worded_empty
        · next tools htools =>
            split at h
            · cases h
              exact Setting.worded_empty
            · next entries hentries =>
                cases h
                exact (hworded.lookup? htools).lookup? hentries
            · cases h
        · cases h

theorem worded_formatRead {format : ConfigFormat} (hformat : format ≠ .yaml) {bytes : List UInt8}
    {found : Setting}
    (h : format.read bytes { ConfigReaders.standard with yaml := yaml } = .ok found) :
    found.Worded := by
  cases format with
  | toml =>
      obtain ⟨t, ht, rfl⟩ := map_eq_ok.1 h
      exact worded_readToml ht
  | yaml => exact absurd rfl hformat
  | json =>
      have hread : readJson bytes = .ok found := h
      rw [readJson] at hread
      split at hread
      · cases hread
      · split at hread
        · cases hread
        · cases hread
          exact Setting.worded_ofValue _

/-- **Only a YAML file has a mapping with a key that is no text**, whatever package reads YAML. -/
theorem yaml_of_oddKey
    (h : loadConfig files directory p { ConfigReaders.standard with yaml := yaml } = .ok c)
    {key : Setting} (hkey : oddKey? c = some key) :
    isProjectName p.name = false ∧ ConfigFormat.ofSuffix? p.suffix = some .yaml := by
  have hodd : ¬ Setting.Worded (.mapping c) := fun hworded => by
    cases hworded.oddKey?_eq_none.symm.trans hkey
  rw [loadConfig] at h
  split at h
  · cases h
  · cases h
  · cases h
  · split at h
    · exact absurd (worded_projectSection h) hodd
    · next hname =>
        refine ⟨by simpa using hname, ?_⟩
        rw [loadByFormat] at h
        split at h
        · cases h
        · split at h
          · cases h
          · next format hformat =>
              rw [hformat, Option.some.injEq]
              refine Decidable.byContradiction fun hyaml => ?_
              rw [mappingOfContents] at h
              split at h
              · cases h
              · next hread =>
                  cases h
                  exact hodd (worded_formatRead hyaml hread)
              · cases h

end

end ForumMarkup
