import Mathlib.Data.List.Infix
import ForumMarkup.Config.Discovery
import ForumMarkup.Proofs.CommandLine.Layering
import ForumMarkup.Proofs.Storage.Fault
/-
**The nearest usable configuration file.**

The search for a configuration file goes through one list of paths: those of the directory it starts
in, those of each directory above it up to the root, and those of the home directory.  It stops at
the first path that is usable.  Files that are not usable, project files that cannot be read among
them, are passed over.  Only a path that cannot even be asked about ends the search early: one that
is too long, or one behind a directory that may not be searched.

Main definitions:

* `ForumMarkup.candidates` — the paths of a search, the preferred one first;
* `ForumMarkup.Usable` — **a path is usable**;
* `ForumMarkup.ProjectFits` — a project file is refused as a search expects, or its tools are a
  table;
* `ForumMarkup.FirstStop` — the first path at which a search has to stop;
* `ForumMarkup.Search` — a search along a list of paths.

Main results:

* `ForumMarkup.search_firstFile`, `ForumMarkup.search_usableIn`, `ForumMarkup.search_findAbove`,
  `ForumMarkup.search_discover` — the search is one along the list, from its parts;
* `ForumMarkup.discover_nearest` — **the file that is found is the first usable one**.
-/

set_option autoImplicit false

namespace ForumMarkup

/-! ### Candidates -/

/-- The directories from a place up to the root, the nearest one first. -/
def upward (place : List String) : List (List String) := place.inits.reverse

/-- The paths that are looked for in a directory, the preferred one first. -/
def candidatesIn (place : List String) : List Path :=
  (dedicatedNames ++ [projectFileName]).map (pathIn place)

/-- The paths of a search, the preferred one first. -/
def candidates (start home : List String) : List Path :=
  (upward start).flatMap candidatesIn ++ dedicatedNames.map (pathIn home)

/-- The directory in which a search starts: the one in use, unless another one is named. -/
def startPlace (directory : List String) (start? : Option Path) : List String :=
  (start?.getD { names := [] }).absolute directory

theorem upward_nil : upward [] = [[]] := rfl

theorem upward_reverse_cons (name : String) (above : List String) :
    upward (name :: above).reverse = (name :: above).reverse :: upward above.reverse := by
  simp [upward, List.inits_reverse]

theorem name_pathIn (place : List String) (name : String) : (pathIn place name).name = name := by
  simp [pathIn, Path.child, Path.name, Path.ofNames]

theorem projectFileName_notMem : projectFileName ∉ dedicatedNames := by decide

/-! ### Usable files -/

section

variable (t : FileTree)

/-- The entries of a project file have a table for the program that is not empty. -/
def HoldsTable (table : Toml.Table) : Prop :=
  ∃ tools entries, Toml.entryOf "tool" table = some (.mapping tools) ∧
    Toml.entryOf programName tools = some (.mapping entries) ∧ entries ≠ []

/-- A project file is TOML and has a table for the program that is not empty. -/
def HasTable (p : Path) : Prop :=
  ∃ bytes table, t.read [] p = .ok bytes ∧ readToml bytes = .ok table ∧ HoldsTable table

/-- A path is usable: it leads to a file, which has a table for the program if it is a project
file. -/
structure Usable (p : Path) : Prop where
  isFile : ∃ place bytes, t.locate [] p = .ok (.file place bytes)
  table : p.name = projectFileName → HasTable t p

/-- A project file cannot be read or is not TOML, or what it has for tools, if anything, is a
table. -/
def ProjectFits (p : Path) : Prop :=
  ∀ bytes, t.read [] p = .ok bytes →
    readToml bytes = .error (.notToml .malformed) ∨
      ∃ table, readToml bytes = .ok table ∧
        ∀ found, Toml.entryOf "tool" table = some found → ∃ tools, found = .mapping tools

/-- A path is passed over: it is not usable, and it can be asked about. -/
def PassedOver (p : Path) : Prop := ¬Usable t p ∧ ∀ fault, ¬t.Barred [] p fault

/-- A path is the first one of a list that is not passed over, if it is not. -/
def FirstStop (ps : List Path) (p : Path) : Prop :=
  ∃ before after, ps = before ++ p :: after ∧ ∀ q ∈ before, PassedOver t q

end

section

variable {t : FileTree} {p q : Path} {ps qs : List Path}
  {outcome outcome' : Except ConfigFault (Option Path)}

theorem Usable.not_barred (h : Usable t p) (fault : StorageFault) : ¬t.Barred [] p fault := by
  obtain ⟨place, bytes, hlocate⟩ := h.isFile
  exact FileTree.not_barred_of_locate hlocate

/-- A name of the program's own is usable if it is that of a file. -/
theorem usable_pathIn_iff {place : List String} {name : String} (h : name ≠ projectFileName) :
    Usable t (pathIn place name) ↔ t.isFile [] (pathIn place name) = .ok true := by
  rw [FileTree.isFile_eq_true]
  refine ⟨Usable.isFile, fun hfile => ⟨hfile, fun hname => ?_⟩⟩
  rw [name_pathIn] at hname
  exact absurd hname h

theorem usable_project_iff {place : List String} :
    Usable t (pathIn place projectFileName) ↔
      t.isFile [] (pathIn place projectFileName) = .ok true ∧
        HasTable t (pathIn place projectFileName) := by
  rw [FileTree.isFile_eq_true]
  exact ⟨fun h => ⟨h.isFile, h.table (name_pathIn _ _)⟩, fun h => ⟨h.1, fun _ => h.2⟩⟩

/-! ### Searches -/

/-- A search along a list of paths, with its outcome. -/
inductive Search (t : FileTree) : List Path → Except ConfigFault (Option Path) → Prop
  | exhausted : Search t [] (.ok none)
  | found {p : Path} {ps : List Path} (h : Usable t p) : Search t (p :: ps) (.ok (some p))
  | lost {p : Path} {ps : List Path} {fault : StorageFault} (h : t.Barred [] p fault) :
      Search t (p :: ps) (.error (.lookup fault))
  | passed {p : Path} {ps : List Path} {outcome : Except ConfigFault (Option Path)}
      (hp : PassedOver t p) (h : Search t ps outcome) : Search t (p :: ps) outcome

namespace Search

/-- A search that finds nothing goes on along what follows. -/
theorem append (h : Search t ps (.ok none)) (h' : Search t qs outcome) :
    Search t (ps ++ qs) outcome := by
  generalize hnone : (Except.ok none : Except ConfigFault (Option Path)) = r at h
  induction h with
  | exhausted => exact h'
  | found h => cases hnone
  | lost h => cases hnone
  | passed hp h ih => exact .passed hp (ih hnone)

/-- A search that stops does not look at what follows. -/
theorem append_of_ne (h : Search t ps outcome) (hne : outcome ≠ .ok none) (qs : List Path) :
    Search t (ps ++ qs) outcome := by
  induction h with
  | exhausted => exact absurd rfl hne
  | found h => exact .found h
  | lost h => exact .lost h
  | passed hp h ih => exact .passed hp (ih hne)

theorem passedOver (h : ∀ q ∈ ps, PassedOver t q) : Search t ps (.ok none) := by
  induction ps with
  | nil => exact .exhausted
  | cons p ps ih =>
      exact .passed (h p List.mem_cons_self) (ih fun q hq => h q (List.mem_cons_of_mem p hq))

theorem unique (h : Search t ps outcome) (h' : Search t ps outcome') : outcome = outcome' := by
  induction h with
  | exhausted =>
      cases h'
      rfl
  | found h =>
      cases h' with
      | found h' => rfl
      | lost h' => exact absurd h' (h.not_barred _)
      | passed hp h' => exact absurd h hp.1
  | lost h =>
      cases h' with
      | found h' => exact absurd h (h'.not_barred _)
      | lost h' => rw [h.unique h']
      | passed hp h' => exact absurd h (hp.2 _)
  | passed hp h ih =>
      cases h' with
      | found h' => exact absurd h' hp.1
      | lost h' => exact absurd h' (hp.2 _)
      | passed hp' h' => exact ih h'

theorem of_firstStop (h : FirstStop t ps p)
    (hstop : ∀ after, Search t (p :: after) outcome) : Search t ps outcome := by
  obtain ⟨before, after, rfl, hbefore⟩ := h
  exact (passedOver hbefore).append (hstop after)

end Search

theorem FirstStop.head (p : Path) (ps : List Path) : FirstStop t (p :: ps) p :=
  ⟨[], ps, rfl, fun _ hq => absurd hq List.not_mem_nil⟩

theorem FirstStop.cons (hq : PassedOver t q) (h : FirstStop t ps p) : FirstStop t (q :: ps) p := by
  obtain ⟨before, after, rfl, hbefore⟩ := h
  refine ⟨q :: before, after, rfl, fun r hr => ?_⟩
  rcases List.mem_cons.1 hr with rfl | hr
  · exact hq
  · exact hbefore r hr

theorem search_some_iff :
    Search t ps (.ok (some p)) ↔ FirstStop t ps p ∧ Usable t p := by
  refine ⟨fun h => ?_, fun h => .of_firstStop h.1 fun after => .found h.2⟩
  generalize hsome : (Except.ok (some p) : Except ConfigFault (Option Path)) = r at h
  induction h with
  | exhausted => cases hsome
  | found h =>
      cases hsome
      exact ⟨.head _ _, h⟩
  | lost h => cases hsome
  | passed hp h ih => exact (ih hsome).imp_left (.cons hp)

theorem search_none_iff : Search t ps (.ok none) ↔ ∀ q ∈ ps, PassedOver t q := by
  refine ⟨fun h => ?_, .passedOver⟩
  generalize hnone : (Except.ok none : Except ConfigFault (Option Path)) = r at h
  induction h with
  | exhausted => exact fun q hq => absurd hq List.not_mem_nil
  | found h => cases hnone
  | lost h => cases hnone
  | passed hp h ih => exact List.forall_mem_cons.2 ⟨hp, ih hnone⟩

/-- What is usable is not hidden by what comes before it. -/
theorem Search.exists_found {after : List Path} (h : Search t (ps ++ p :: after) outcome)
    (hp : Usable t p) (hps : ∀ q ∈ ps, ∀ fault, ¬t.Barred [] q fault) :
    ∃ q ∈ ps ++ [p], Usable t q ∧ outcome = .ok (some q) := by
  induction ps with
  | nil =>
      exact ⟨p, List.mem_singleton_self p, hp, h.unique (.found hp)⟩
  | cons r ps ih =>
      obtain ⟨hr, hps⟩ := List.forall_mem_cons.1 hps
      cases h with
      | found h => exact ⟨r, List.mem_cons_self, h, rfl⟩
      | lost h => exact absurd h (hr _)
      | passed _ h =>
          obtain ⟨q, hq, hfound⟩ := ih h hps
          exact ⟨q, List.mem_cons_of_mem r hq, hfound⟩

theorem search_error_iff {e : ConfigFault} :
    Search t ps (.error e) ↔
      ∃ fault q, e = .lookup fault ∧ FirstStop t ps q ∧ t.Barred [] q fault := by
  constructor
  · intro h
    generalize herror : (Except.error e : Except ConfigFault (Option Path)) = r at h
    induction h with
    | exhausted => cases herror
    | found h => cases herror
    | lost h =>
        cases herror
        exact ⟨_, _, rfl, .head _ _, h⟩
    | passed hp h ih =>
        obtain ⟨fault, q, hfault, hfirst, hbarred⟩ := ih herror
        exact ⟨fault, q, hfault, .cons hp hfirst, hbarred⟩
  · rintro ⟨fault, q, rfl, hfirst, hbarred⟩
    exact .of_firstStop hfirst fun after => .lost hbarred

end

/-! ### The search of the program -/

section

variable {t : FileTree} {place : List String}

/-- Looking for names of the program's own is a search. -/
theorem search_firstFile {names : List String} (h : projectFileName ∉ names) :
    Search t (names.map (pathIn place)) (firstFile t place names) := by
  induction names with
  | nil => exact .exhausted
  | cons name names ih =>
      have hname : name ≠ projectFileName := fun heq => h (heq ▸ List.mem_cons_self)
      have hrest := ih fun hmem => h (List.mem_cons_of_mem _ hmem)
      rw [firstFile, ← pathIn]
      have husable := @usable_pathIn_iff t place name hname
      have herror := @FileTree.isFile_error t [] (pathIn place name)
      cases hfile : t.isFile [] (pathIn place name) with
      | error fault => exact .lost (herror.1 hfile)
      | ok found =>
          cases found with
          | true => exact .found (husable.2 hfile)
          | false =>
              refine .passed ⟨fun h => ?_, fun fault hbarred => ?_⟩ hrest
              · rw [husable.1 h] at hfile
                cases hfile
              · rw [herror.2 hbarred] at hfile
                cases hfile

theorem toolSection_eq (p : Path) (table : Toml.Table) :
    toolSection p table =
      match Toml.entryOf "tool" table with
      | none => .ok []
      | some (.mapping tools) =>
        match Toml.entryOf programName tools with
        | none => .ok []
        | some (.mapping entries) => .ok entries
        | some found => .error (.sectionNotTable p found.typeName)
      | some _ => .error (.toolsNotTable p) := rfl

/-- The table of the program is found if there is one; what is no table is refused as foreseen. -/
theorem toolSection_cases {p : Path} {table : Toml.Table}
    (htools : ∀ found, Toml.entryOf "tool" table = some found → ∃ tools, found = .mapping tools) :
    (∃ entries, toolSection p table = .ok entries ∧ (entries ≠ [] ↔ HoldsTable table)) ∨
      ∃ fault, toolSection p table = .error fault ∧ fault.isForeseen = true ∧
        ¬HoldsTable table := by
  rw [toolSection_eq, HoldsTable]
  cases htool : Toml.entryOf "tool" table with
  | none => exact .inl ⟨[], rfl, by simp⟩
  | some found =>
      obtain ⟨tools, rfl⟩ := htools found htool
      simp only [Option.some.injEq, Setting.mapping.injEq, exists_and_left, exists_eq_left']
      cases hsection : Toml.entryOf programName tools with
      | none => exact .inl ⟨[], rfl, by simp⟩
      | some found =>
          cases found with
          | mapping entries => exact .inl ⟨entries, rfl, by simp⟩
          | _ => exact .inr ⟨_, rfl, rfl, by simp⟩

/-- A project file that fits has a table for the program, or is refused as foreseen. -/
theorem projectSection_cases {p : Path} (hfits : ProjectFits t p) :
    (∃ entries, projectSection t [] p = .ok entries ∧ (entries ≠ [] ↔ HasTable t p)) ∨
      ∃ fault, projectSection t [] p = .error fault ∧ fault.isForeseen = true ∧
        ¬HasTable t p := by
  rw [projectSection, HasTable]
  cases hread : t.read [] p with
  | error fault => exact .inr ⟨_, rfl, rfl, by simp⟩
  | ok bytes =>
      have hreader : ConfigReaders.standard.toml bytes = readToml bytes := rfl
      simp only [Except.ok.injEq, exists_and_left, exists_eq_left', hreader]
      rcases hfits bytes hread with htoml | ⟨table, htoml, htools⟩
      · simp only [htoml]
        exact .inr ⟨_, rfl, rfl, by simp⟩
      · simpa only [htoml, Except.ok.injEq, exists_eq_left'] using toolSection_cases htools

/-- Looking at the project file of a directory is a search. -/
theorem search_hasProject (hfits : ProjectFits t (pathIn place projectFileName)) :
    Search t [pathIn place projectFileName]
      ((hasProject t place).map fun found =>
        if found then some (pathIn place projectFileName) else none) := by
  have husable := @usable_project_iff t place
  have herror := @FileTree.isFile_error t [] (pathIn place projectFileName)
  have hpassed : (¬Usable t (pathIn place projectFileName)) →
      (∀ fault, t.isFile [] (pathIn place projectFileName) ≠ .error fault) →
        Search t [pathIn place projectFileName] (.ok none) := fun hnot hasked =>
    .passed ⟨hnot, fun fault hbarred => hasked fault (herror.2 hbarred)⟩ .exhausted
  rw [hasProject, ← pathIn]
  cases hfile : t.isFile [] (pathIn place projectFileName) with
  | error fault => exact .lost (herror.1 hfile)
  | ok found =>
      simp only [hfile] at husable hpassed
      cases found with
      | false => exact hpassed (by simp [husable]) (by simp)
      | true =>
          simp only [true_and] at husable
          rcases projectSection_cases hfits with
            ⟨entries, hentries, htable⟩ | ⟨fault, hfault, hforeseen, htable⟩
          · simp only [hentries]
            cases entries with
            | nil => exact hpassed (by rw [husable, ← htable]; simp) (by simp)
            | cons entry entries => exact .found (husable.2 (htable.1 (by simp)))
          · simp only [hfault, hforeseen, if_true]
            exact hpassed (by rwa [husable]) (by simp)

/-- Looking in a directory is a search. -/
theorem search_usableIn (hfits : ProjectFits t (pathIn place projectFileName)) :
    Search t (candidatesIn place) (usableIn t place) := by
  have hfirst := @search_firstFile t place _ projectFileName_notMem
  have hproject := search_hasProject hfits
  rw [candidatesIn, List.map_append, usableIn]
  cases hfound : firstFile t place dedicatedNames with
  | error fault =>
      rw [hfound] at hfirst
      exact hfirst.append_of_ne (by simp) _
  | ok found =>
      rw [hfound] at hfirst
      cases found with
      | some p => exact hfirst.append_of_ne (by simp) _
      | none =>
          refine hfirst.append ?_
          simp only [bind, Except.bind]
          cases hhas : hasProject t place with
          | error fault =>
              rw [hhas] at hproject
              exact hproject
          | ok found =>
              rw [hhas] at hproject
              cases found <;> exact hproject

/-- Looking in a directory and above it is a search. -/
theorem search_findAbove {behind : List String}
    (hfits : ∀ place ∈ upward behind.reverse, ProjectFits t (pathIn place projectFileName)) :
    Search t ((upward behind.reverse).flatMap candidatesIn) (findAbove t behind) := by
  induction behind with
  | nil =>
      rw [List.reverse_nil, upward_nil, List.flatMap_singleton, findAbove]
      exact search_usableIn (hfits [] (List.mem_singleton_self _))
  | cons name above ih =>
      rw [upward_reverse_cons] at hfits ⊢
      have hhere := search_usableIn (hfits _ List.mem_cons_self)
      have habove := ih fun place hplace => hfits place (List.mem_cons_of_mem _ hplace)
      rw [List.flatMap_cons, findAbove]
      cases hfound : usableIn t (name :: above).reverse with
      | error fault =>
          rw [hfound] at hhere
          exact hhere.append_of_ne (by simp) _
      | ok found =>
          rw [hfound] at hhere
          cases found with
          | some p => exact hhere.append_of_ne (by simp) _
          | none => exact hhere.append habove

variable {directory home : List String} {start? : Option Path}

/-- The whole search is one along the list of candidates. -/
theorem search_discover (hstart : ∀ start, start? = some start → ¬start.HasNull)
    (hfits : ∀ place ∈ upward (startPlace directory start?),
      ProjectFits t (pathIn place projectFileName)) :
    Search t (candidates (startPlace directory start?) home)
      (discover t directory home start?) := by
  have hparents : findInParents t directory start? =
      findAbove t (startPlace directory start?).reverse := by
    rw [findInParents, startPlace]
    refine if_neg fun hnull => ?_
    rw [Path.any_null_iff] at hnull
    cases start? with
    | none =>
        obtain ⟨n, hn, -⟩ := hnull
        cases hn
    | some start => exact hstart start rfl hnull
  have habove := @search_findAbove t (startPlace directory start?).reverse
    (by rwa [List.reverse_reverse])
  rw [List.reverse_reverse, ← hparents] at habove
  rw [candidates, discover]
  cases hfound : findInParents t directory start? with
  | error fault =>
      rw [hfound] at habove
      exact habove.append_of_ne (by simp) _
  | ok found =>
      rw [hfound] at habove
      cases found with
      | some p => exact habove.append_of_ne (by simp) _
      | none => exact habove.append (search_firstFile projectFileName_notMem)

/-- What a search along a list of paths finds. -/
structure FindsNearest (t : FileTree) (ps : List Path)
    (outcome : Except ConfigFault (Option Path)) : Prop where
  /-- A path is found if it is the first one that is not passed over, and usable. -/
  found : ∀ p, outcome = .ok (some p) ↔ FirstStop t ps p ∧ Usable t p
  /-- Nothing is found if all paths are passed over. -/
  nothing : outcome = .ok none ↔ ∀ q ∈ ps, PassedOver t q
  /-- The search is lost if the first path that is not passed over cannot be asked about. -/
  lost : ∀ e, outcome = .error e ↔
    ∃ fault q, e = .lookup fault ∧ FirstStop t ps q ∧ t.Barred [] q fault
  /-- A usable path wins over all that come after it, and what is not usable hides nothing. -/
  wins : ∀ before p after, ps = before ++ p :: after → Usable t p →
    (∀ q ∈ before, ∀ fault, ¬t.Barred [] q fault) →
      ∃ q ∈ before ++ [p], Usable t q ∧ outcome = .ok (some q)

/-- **The file that is found is the first usable one** among those of the directory in which the
search starts, of each directory above it up to the root, and of the home directory. -/
theorem discover_nearest (hstart : ∀ start, start? = some start → ¬start.HasNull)
    (hfits : ∀ place ∈ upward (startPlace directory start?),
      ProjectFits t (pathIn place projectFileName)) :
    FindsNearest t (candidates (startPlace directory start?) home)
      (discover t directory home start?) := by
  have hsearch := @search_discover t directory home start? hstart hfits
  have heq : ∀ x, discover t directory home start? = x ↔
      Search t (candidates (startPlace directory start?) home) x := fun x =>
    ⟨fun h => h ▸ hsearch, hsearch.unique⟩
  constructor
  case found => exact fun p => (heq _).trans search_some_iff
  case nothing => exact (heq _).trans search_none_iff
  case lost => exact fun e => (heq _).trans search_error_iff
  case wins =>
    intro before p after hps hp hbefore
    rw [hps] at hsearch
    exact hsearch.exists_found hp hbefore

end

/-- A directory whose project file is broken, below one with two files of the program's own. -/
def brokenBelow : FileTree :=
  .directory [(".org2bb.json", .file []), (".org2bb.yml", .file []),
    ("a", .directory [("pyproject.toml", .file (Text.utf8Encode "[tool".toList)),
      (".org2bb.toml", .directory [])])]

theorem projectFits_brokenBelow :
    ∀ place ∈ upward (startPlace ["a"] none),
      ProjectFits brokenBelow (pathIn place projectFileName) := by
  have hplaces : upward (startPlace ["a"] none) = [["a"], []] := by decide +kernel
  have hbroken : readToml (Text.utf8Encode "[tool".toList) = .error (.notToml .malformed) := rfl
  rw [hplaces]
  intro place hplace bytes hread
  rcases List.mem_cons.1 hplace with rfl | hplace
  · cases hread
    exact .inl hbroken
  · cases List.mem_singleton.1 hplace
    cases hread

/-- The theorem in that directory, where the preferred file above it is found. -/
theorem discover_nearest_broken :
    FindsNearest brokenBelow (candidates (startPlace ["a"] none) [])
        (discover brokenBelow ["a"] [] none) ∧
      (discover brokenBelow ["a"] [] none).toOption =
        some (some (pathIn [] ".org2bb.yml")) :=
  ⟨discover_nearest (by simp) projectFits_brokenBelow, by decide +kernel⟩

/-- If the lower directory may not be searched, the search ends there. -/
example :
    let refuses (access : Access) (place : List String) : Bool :=
      access == .search && place == ["a"]
    (discover { brokenBelow with refuses := refuses } ["a"] [] none matches
      .error (.lookup .denied)) = true := by
  decide +kernel

/-! ### A directory that is too deep -/

/-- Directories one in the other, and nothing else. -/
def nested : List String → FileNode
  | [] => .directory []
  | n :: ns => .directory [(n, nested ns)]

/-- The innermost directory is at its place. -/
theorem occupant?_nested (ns : List String) : (nested ns).occupant? ns = some .directory := by
  induction ns with
  | nil => rfl
  | cons n ns ih => simpa [nested, FileNode.occupant?_directory, lookupEntry] using ih

/-- There is no file anywhere. -/
theorem occupant?_nested_ne_file (ns place : List String) (bytes : List UInt8) :
    (nested ns).occupant? place ≠ some (.file bytes) := by
  induction ns generalizing place with
  | nil =>
      cases place <;>
        simp [nested, FileNode.occupant?_directory, lookupEntry, FileNode.entry]
  | cons n ns ih =>
      cases place with
      | nil => simp [nested, FileNode.entry]
      | cons m ms =>
          rw [nested, FileNode.occupant?_directory]
          by_cases h : n = m
          · simpa [lookupEntry, h] using ih ms
          · simp [lookupEntry, h]

theorem locate_nested_ne_file (ns place directory : List String) (bytes : List UInt8) (p : Path) :
    FileTree.locate { root := nested ns } directory p ≠ .ok (.file place bytes) := fun hlocate =>
  occupant?_nested_ne_file ns place bytes (FileTree.stands_of_locate hlocate)

/-- Seventeen names of 250 letters. -/
def deepPlace : List String := List.replicate 17 (String.ofList (List.replicate 250 'a'))

theorem not_null_deepPlace : ∀ n ∈ deepPlace, '\x00' ∉ n.toList := by
  intro n hn hnull
  rw [List.eq_of_mem_replicate hn, String.toList_ofList] at hnull
  exact absurd (List.eq_of_mem_replicate hnull) (by decide)

/-- The first path of a search that starts there is too long. -/
theorem barred_deepPlace (t : FileTree) :
    t.Barred [] (pathIn deepPlace ".org2bb.toml") .nameTooLong := by
  have hsize : (pathIn deepPlace ".org2bb.toml").shown.utf8ByteSize > 4095 := by decide +kernel
  have hnull : ¬(pathIn deepPlace ".org2bb.toml").HasNull := by
    rintro ⟨n, hn, hnull⟩
    rcases List.mem_append.1 hn with hn | hn
    · exact not_null_deepPlace n hn hnull
    · rw [List.mem_singleton.1 hn] at hnull
      exact absurd hnull (by decide)
  refine ⟨.inl rfl, ?_⟩
  rw [FileTree.locate, if_neg (mt Path.any_null_iff.1 hnull), if_pos hsize]

/-- In a directory whose path is too long the search is lost, though no candidate is usable and
every project file fits. -/
theorem discover_deepPlace :
    let t : FileTree := { root := nested deepPlace }
    let start := Path.ofNames deepPlace
    t.occupant? deepPlace = some .directory ∧ startPlace [] (some start) = deepPlace ∧
      (∀ place ∈ upward deepPlace, ProjectFits t (pathIn place projectFileName)) ∧
      (∀ q ∈ candidates deepPlace [], ¬Usable t q) ∧
      discover t [] [] (some start) = .error (.lookup .nameTooLong) := by
  intro t start
  have hplace : startPlace [] (some start) = deepPlace := by decide +kernel
  have hunusable : ∀ q, ¬Usable t q := fun q h => by
    obtain ⟨place, bytes, hfile⟩ := h.isFile
    exact locate_nested_ne_file _ _ _ _ _ hfile
  have hfits : ∀ p, ProjectFits t p := by
    intro p bytes hread
    rw [FileTree.read] at hread
    split at hread
    · cases hread
    · rename_i hfile
      exact absurd hfile (locate_nested_ne_file _ _ _ _ _)
    · cases hread
    · cases hread
  refine ⟨occupant?_nested deepPlace, hplace, fun _ _ => hfits _, fun q _ => hunusable q, ?_⟩
  have hsearch := @search_discover t [] [] (some start)
    (by rintro _ ⟨⟩ ⟨n, hn, hnull⟩; exact not_null_deepPlace n hn hnull) fun _ _ => hfits _
  rw [hplace] at hsearch
  have hfirst : FirstStop t (candidates deepPlace []) (pathIn deepPlace ".org2bb.toml") :=
    ⟨[], _, rfl, by simp⟩
  exact hsearch.unique (search_error_iff.2 ⟨_, _, rfl, hfirst, barred_deepPlace t⟩)

end ForumMarkup
