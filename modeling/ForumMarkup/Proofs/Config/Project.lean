import ForumMarkup.Proofs.Config.Discovery
/-
**Project files of any contents.**

A project file is shared with other programs, and the search for a configuration file comes upon it
unasked, so it may hold anything.  The search goes along the paths of the directories from the first
one up to the root and asks of each path whether it is accepted.  It does not accept a project file
without settings for the program, and goes on as if there were no such file.  Three forms of
contents are not foreseen, though: they break the search off, and the loading of the file too.
Nothing of this depends on how TOML is read.

Main definitions:

* `ForumMarkup.HasSettings` — contents have settings for the program;
* `ForumMarkup.Breaks` — **contents that are not foreseen**, with their fault;
* `ForumMarkup.accepts` — whether the search stops at a path;
* `ForumMarkup.ProjectSearch`, `ForumMarkup.ProjectLoad` — what is said of a search and of the
  loading of a project file.

Main results:

* `ForumMarkup.projectSection_sectionOf` — what the contents of a project file come to;
* `ForumMarkup.findAbove_eq_findM?` — a search takes the first path that is accepted;
* `ForumMarkup.accepts_of_change` — a file without settings is as good as missing;
* `ForumMarkup.project_contained` — **which project files abort a search**.
-/

set_option autoImplicit false

namespace ForumMarkup

/-! ### Contents of project files -/

section

variable (readers : ConfigReaders)

/-- Contents have a table for the program that is not empty. -/
def HasSettings (bytes : List UInt8) : Prop :=
  ∃ table, readers.toml bytes = .ok table ∧ HoldsTable table

/-- Contents are not foreseen in a project file, and the fault of a path with them: they are not
UTF-8, an integer has too many digits, or what they have for tools is no table. -/
inductive Breaks (bytes : List UInt8) : (Path → ConfigFault) → Prop
  | encoding (h : readers.toml bytes = .error .encoding) : Breaks bytes .projectEncoding
  | integer (h : readers.toml bytes = .error (.notToml .integerTooLong)) :
      Breaks bytes .projectInteger
  | tools {table : Toml.Table} {found : Setting} (h : readers.toml bytes = .ok table)
      (htool : Toml.entryOf "tool" table = some found) (hfound : ∀ tools, found ≠ .mapping tools) :
      Breaks bytes .toolsNotTable

/-- What the contents of a project file come to. -/
inductive SectionOf (p : Path) (bytes : List UInt8) : Except ConfigFault ConfigEntries → Prop
  | entries {c : ConfigEntries} (hfits : ∀ fault, ¬Breaks readers bytes fault)
      (h : c ≠ [] ↔ HasSettings readers bytes) : SectionOf p bytes (.ok c)
  | refused {fault : ConfigFault} (hfits : ∀ fault, ¬Breaks readers bytes fault)
      (hforeseen : fault.isForeseen = true) (h : ¬HasSettings readers bytes) :
      SectionOf p bytes (.error fault)
  | broken {fault : Path → ConfigFault} (h : Breaks readers bytes fault) :
      SectionOf p bytes (.error (fault p))

end

section

variable {readers : ConfigReaders} {t : FileTree} {directory : List String} {p : Path}
  {bytes : List UInt8}

theorem Breaks.not_isForeseen {fault : Path → ConfigFault} (h : Breaks readers bytes fault)
    (p : Path) : (fault p).isForeseen = false := by
  cases h <;> rfl

/-- Contents are not foreseen for one reason only. -/
theorem Breaks.unique {fault fault' : Path → ConfigFault} (h : Breaks readers bytes fault)
    (h' : Breaks readers bytes fault') : fault = fault' := by
  cases h with
  | encoding h =>
      cases h' with
      | encoding h' => rfl
      | integer h' | tools h' => cases h.symm.trans h'
  | integer h =>
      cases h' with
      | integer h' => rfl
      | encoding h' | tools h' => cases h.symm.trans h'
  | tools h =>
      cases h' with
      | tools h' => rfl
      | encoding h' | integer h' => cases h.symm.trans h'

theorem Breaks.not_hasSettings {fault : Path → ConfigFault} (h : Breaks readers bytes fault) :
    ¬HasSettings readers bytes := by
  rintro ⟨table, htable, tools, entries, htool, -, -⟩
  cases h with
  | encoding h => simp [h] at htable
  | integer h => simp [h] at htable
  | tools h hentry hfound =>
      rw [h] at htable
      cases htable
      rw [hentry, Option.some.injEq] at htool
      exact hfound tools htool

/-- TOML whose tools are a table, or that has none, is foreseen. -/
theorem not_breaks_of_tools {table : Toml.Table} (h : readers.toml bytes = .ok table)
    (htools : ∀ found, Toml.entryOf "tool" table = some found → ∃ tools, found = .mapping tools)
    (fault : Path → ConfigFault) : ¬Breaks readers bytes fault := by
  rintro (h' | h' | ⟨h', htool, hfound⟩)
  · cases h.symm.trans h'
  · cases h.symm.trans h'
  · cases h.symm.trans h'
    obtain ⟨tools, rfl⟩ := htools _ htool
    exact hfound tools rfl

/-- What a readable project file comes to. -/
theorem toolSection_sectionOf {table : Toml.Table} (h : readers.toml bytes = .ok table) :
    SectionOf readers p bytes (toolSection p table) := by
  have hsettings : HasSettings readers bytes ↔ HoldsTable table := by simp [HasSettings, h]
  by_cases htools : ∀ found, Toml.entryOf "tool" table = some found →
      ∃ tools, found = .mapping tools
  · have hfits := not_breaks_of_tools h htools
    rcases toolSection_cases (p := p) htools with
      ⟨c, hc, htable⟩ | ⟨fault, hfault, hforeseen, htable⟩
    · rw [hc]
      exact .entries hfits (htable.trans hsettings.symm)
    · rw [hfault]
      exact .refused hfits hforeseen (mt hsettings.1 htable)
  · obtain ⟨found, hfound⟩ := not_forall.1 htools
    obtain ⟨htool, hfound⟩ := Classical.not_imp.1 hfound
    have hsection : toolSection p table = .error (.toolsNotTable p) := by
      rw [toolSection_eq, htool]
      cases found with
      | mapping tools => exact absurd ⟨tools, rfl⟩ hfound
      | _ => rfl
    rw [hsection]
    exact .broken (.tools h htool (not_exists.1 hfound))

/-- What a project file comes to whose bytes can be had. -/
theorem projectSection_sectionOf (hread : t.read directory p = .ok bytes) :
    SectionOf readers p bytes (projectSection t directory p readers) := by
  rw [projectSection, hread]
  simp only
  split
  · rename_i h
    exact .broken (.encoding h)
  · rename_i h
    exact .broken (.integer h)
  · rename_i found hencoding hinteger h
    refine .refused ?_ rfl ?_
    · rintro fault (h' | h' | h')
      · exact hencoding (Except.error.inj (h.symm.trans h'))
      · exact hinteger (Except.error.inj (h.symm.trans h'))
      · cases h.symm.trans h'
    · rintro ⟨table, h', -⟩
      cases h.symm.trans h'
  · rename_i table h
    exact toolSection_sectionOf h

end

/-! ### Searches -/

section

variable {ε α : Type} {test test' : α → Except ε Bool} {ps qs : List α} {p : α} {e : ε}

theorem findM?_cons (test : α → Except ε Bool) (p : α) (ps : List α) :
    (p :: ps).findM? test =
      match test p with
      | .error e => .error e
      | .ok true => .ok (some p)
      | .ok false => ps.findM? test := by
  rw [List.findM?]
  cases test p with
  | error e => rfl
  | ok found => cases found <;> rfl

theorem findM?_append (test : α → Except ε Bool) (ps qs : List α) :
    (ps ++ qs).findM? test =
      match ps.findM? test with
      | .ok none => qs.findM? test
      | outcome => outcome := by
  induction ps with
  | nil => rfl
  | cons p ps ih =>
      rw [List.cons_append, findM?_cons, findM?_cons]
      cases test p with
      | error e => rfl
      | ok found =>
          cases found with
          | true => rfl
          | false => exact ih

theorem findM?_congr (h : ∀ p ∈ ps, test p = test' p) : ps.findM? test = ps.findM? test' := by
  induction ps with
  | nil => rfl
  | cons p ps ih =>
      obtain ⟨hp, hps⟩ := List.forall_mem_cons.1 h
      rw [findM?_cons, findM?_cons, hp, ih hps]

/-- An element is the first one of a list that a test does not reject, if it does not. -/
def FirstKept (test : α → Except ε Bool) (ps : List α) (p : α) : Prop :=
  ∃ before after, ps = before ++ p :: after ∧ ∀ q ∈ before, test q = .ok false

theorem findM?_rejected (h : ∀ p ∈ ps, test p = .ok false) : ps.findM? test = .ok none := by
  induction ps with
  | nil => rfl
  | cons p ps ih =>
      obtain ⟨hp, hps⟩ := List.forall_mem_cons.1 h
      rw [findM?_cons, hp]
      exact ih hps

/-- The first element that is not rejected decides a search. -/
theorem FirstKept.findM?_eq (h : FirstKept test ps p) (hp : test p ≠ .ok false) :
    ps.findM? test = (test p).map fun _ => some p := by
  obtain ⟨before, after, rfl, hbefore⟩ := h
  rw [findM?_append, findM?_rejected hbefore]
  simp only [findM?_cons]
  cases htest : test p with
  | error e => rfl
  | ok found =>
      cases found with
      | true => rfl
      | false => exact absurd htest hp

/-- All elements are rejected, or there is a first one that is not. -/
theorem rejected_or_firstKept (test : α → Except ε Bool) (ps : List α) :
    (∀ p ∈ ps, test p = .ok false) ∨ ∃ p, FirstKept test ps p ∧ test p ≠ .ok false := by
  induction ps with
  | nil => exact .inl (List.forall_mem_nil _)
  | cons p ps ih =>
      by_cases hp : test p = .ok false
      · rcases ih with hps | ⟨q, ⟨before, after, rfl, hbefore⟩, hq⟩
        · exact .inl (List.forall_mem_cons.2 ⟨hp, hps⟩)
        · exact .inr ⟨q, ⟨p :: before, after, rfl, List.forall_mem_cons.2 ⟨hp, hbefore⟩⟩, hq⟩
      · exact .inr ⟨p, ⟨[], ps, rfl, List.forall_mem_nil _⟩, hp⟩

variable (test ps) in
/-- What a search comes to. -/
inductive SearchResult : Except ε (Option α) → Prop
  | nothing (h : ∀ p ∈ ps, test p = .ok false) : SearchResult (.ok none)
  | found {p : α} (hfirst : FirstKept test ps p) (hp : test p = .ok true) :
      SearchResult (.ok (some p))
  | failed {p : α} {e : ε} (hfirst : FirstKept test ps p) (hp : test p = .error e) :
      SearchResult (.error e)

theorem findM?_result : SearchResult test ps (ps.findM? test) := by
  rcases rejected_or_firstKept test ps with hps | ⟨p, hfirst, hp⟩
  · rw [findM?_rejected hps]
    exact .nothing hps
  · rw [hfirst.findM?_eq hp]
    cases htest : test p with
    | error e => exact .failed hfirst htest
    | ok found =>
        cases found with
        | true => exact .found hfirst htest
        | false => exact absurd htest hp

theorem findM?_error_iff :
    ps.findM? test = .error e ↔ ∃ p, FirstKept test ps p ∧ test p = .error e := by
  constructor
  · intro h
    have hresult : SearchResult test ps (.error e) := h ▸ findM?_result
    cases hresult with
    | failed hfirst hp => exact ⟨_, hfirst, hp⟩
  · rintro ⟨p, hfirst, hp⟩
    rw [hfirst.findM?_eq (by simp [hp]), hp]
    rfl

theorem findM?_some_iff :
    ps.findM? test = .ok (some p) ↔ FirstKept test ps p ∧ test p = .ok true := by
  constructor
  · intro h
    have hresult : SearchResult test ps (.ok (some p)) := h ▸ findM?_result
    cases hresult with
    | found hfirst hp => exact ⟨hfirst, hp⟩
  · rintro ⟨hfirst, hp⟩
    rw [hfirst.findM?_eq (by simp [hp]), hp]
    rfl

theorem findM?_none_iff : ps.findM? test = .ok none ↔ ∀ p ∈ ps, test p = .ok false := by
  refine ⟨fun h => ?_, findM?_rejected⟩
  have hresult : SearchResult test ps (.ok none) := h ▸ findM?_result
  cases hresult with
  | nothing hps => exact hps

end

/-! ### The search of the program -/

section

variable (readers : ConfigReaders)

/-- Whether the search stops at a path: it does at a file, unless that is a project file without
settings for the program. -/
def accepts (t : FileTree) (p : Path) : Except ConfigFault Bool :=
  match t.isFile [] p with
  | .error fault => .error (.lookup fault)
  | .ok false => .ok false
  | .ok true =>
    if p.name = projectFileName then
      match projectSection t [] p readers with
      | .ok entries => .ok (!entries.isEmpty)
      | .error fault => if fault.isForeseen then .ok false else .error fault
    else .ok true

/-- The paths of a search from a directory upward, the preferred one first. -/
def chain (directory : List String) (start? : Option Path) : List Path :=
  (upward (startPlace directory start?)).flatMap candidatesIn

variable {readers} {t : FileTree} {place : List String}

theorem firstFile_eq_findM? {names : List String} (h : projectFileName ∉ names) :
    firstFile t place names = (names.map (pathIn place)).findM? (accepts readers t) := by
  induction names with
  | nil => rfl
  | cons name names ih =>
      have hname : (pathIn place name).name ≠ projectFileName := by
        rw [name_pathIn]
        exact fun heq => h (heq ▸ List.mem_cons_self)
      rw [firstFile, List.map_cons, findM?_cons, ← pathIn, accepts]
      cases t.isFile [] (pathIn place name) with
      | error fault => rfl
      | ok found =>
          cases found with
          | true => simp [hname]
          | false => exact ih fun hmem => h (List.mem_cons_of_mem _ hmem)

theorem hasProject_eq_accepts :
    hasProject t place readers = accepts readers t (pathIn place projectFileName) := by
  rw [hasProject, accepts, ← pathIn]
  cases t.isFile [] (pathIn place projectFileName) with
  | error fault => rfl
  | ok found =>
      cases found with
      | true => exact (if_pos (name_pathIn _ _)).symm
      | false => rfl

theorem usableIn_eq_findM? :
    usableIn t place readers = (candidatesIn place).findM? (accepts readers t) := by
  rw [candidatesIn, List.map_append, findM?_append, ← firstFile_eq_findM? projectFileName_notMem,
    usableIn, hasProject_eq_accepts, List.map_singleton, findM?_cons, ← pathIn]
  cases firstFile t place dedicatedNames with
  | error fault => rfl
  | ok found =>
      cases found with
      | some p => rfl
      | none =>
          simp only [bind, Except.bind]
          cases accepts readers t (pathIn place projectFileName) with
          | error fault => rfl
          | ok found => cases found <;> rfl

/-- **A search takes the first path that is accepted.** -/
theorem findAbove_eq_findM? (behind : List String) :
    findAbove t behind readers =
      ((upward behind.reverse).flatMap candidatesIn).findM? (accepts readers t) := by
  induction behind with
  | nil =>
      rw [List.reverse_nil, upward_nil, List.flatMap_singleton, findAbove, usableIn_eq_findM?]
  | cons name above ih =>
      rw [upward_reverse_cons, List.flatMap_cons, findM?_append, findAbove, usableIn_eq_findM?,
        ← ih]
      cases (candidatesIn (name :: above).reverse).findM? (accepts readers t) with
      | error fault => rfl
      | ok found => cases found <;> rfl

variable {directory : List String} {start? : Option Path}

/-- A search ends at once if the name of its directory has a null character. -/
theorem findInParents_eq_findM? :
    findInParents t directory start? readers =
      if (start?.getD { names := [] }).names.any fun n => n.toList.contains '\x00' then
        .error (.lookup .nullCharacter)
      else (chain directory start?).findM? (accepts readers t) := by
  rw [findInParents, findAbove_eq_findM?, List.reverse_reverse]
  rfl

end

/-! ### What a search accepts -/

section

variable (readers : ConfigReaders) (t : FileTree) (p : Path)

/-- A path is that of a configuration file: it leads to a file, which may be read and has settings
for the program if it is a project file. -/
def IsConfig : Prop :=
  ∃ place bytes, t.locate [] p = .ok (.file place bytes) ∧
    (p.name = projectFileName → t.refuses .read place = false ∧ HasSettings readers bytes)

/-- A path breaks a search off: it cannot be asked about, or is that of a project file that may be
read and whose contents are not foreseen. -/
inductive BreaksOff : ConfigFault → Prop
  | barred {fault : StorageFault} (h : t.Barred [] p fault) : BreaksOff (.lookup fault)
  | project {place : List String} {bytes : List UInt8} {fault : Path → ConfigFault}
      (hfile : t.locate [] p = .ok (.file place bytes)) (hname : p.name = projectFileName)
      (hread : t.refuses .read place = false) (h : Breaks readers bytes fault) :
      BreaksOff (fault p)

/-- A search passes over a path. -/
def PassesOver : Prop := ¬IsConfig readers t p ∧ ∀ fault, ¬BreaksOff readers t p fault

/-- What it means that a search accepts a path, rejects it or cannot tell. -/
inductive Accepted : Except ConfigFault Bool → Prop
  | config (h : IsConfig readers t p) : Accepted (.ok true)
  | passed (h : PassesOver readers t p) : Accepted (.ok false)
  | broken {fault : ConfigFault} (h : BreaksOff readers t p fault) : Accepted (.error fault)

variable {readers t p}

theorem BreaksOff.not_isConfig {fault : ConfigFault} (h : BreaksOff readers t p fault) :
    ¬IsConfig readers t p := by
  rintro ⟨place, bytes, hlocate, hsettings⟩
  cases h with
  | barred h => exact FileTree.not_barred_of_locate hlocate h
  | project hfile hname hread h =>
      cases hfile.symm.trans hlocate
      exact h.not_hasSettings (hsettings hname).2

theorem BreaksOff.unique {fault fault' : ConfigFault} (h : BreaksOff readers t p fault)
    (h' : BreaksOff readers t p fault') : fault = fault' := by
  cases h with
  | barred h =>
      cases h' with
      | barred h' => rw [h.unique h']
      | project hfile' hname' hread' h' => exact absurd h (FileTree.not_barred_of_locate hfile')
  | project hfile hname hread h =>
      cases h' with
      | barred h' => exact absurd h' (FileTree.not_barred_of_locate hfile)
      | project hfile' hname' hread' h' =>
          cases hfile.symm.trans hfile'
          rw [h.unique h']

theorem accepts_accepted : Accepted readers t p (accepts readers t p) := by
  rw [accepts]
  cases hfile : t.isFile [] p with
  | error fault => exact .broken (.barred (FileTree.isFile_error.1 hfile))
  | ok found =>
      cases found with
      | false =>
          have hnone : ∀ place bytes, t.locate [] p ≠ .ok (.file place bytes) := by
            intro place bytes hlocate
            cases hfile.symm.trans (FileTree.isFile_eq_true.2 ⟨place, bytes, hlocate⟩)
          refine .passed ⟨fun ⟨place, bytes, hlocate, _⟩ => hnone place bytes hlocate, ?_⟩
          rintro fault (hbarred | ⟨hlocate, -, -, -⟩)
          · cases hfile.symm.trans (FileTree.isFile_error.2 hbarred)
          · exact hnone _ _ hlocate
      | true =>
          obtain ⟨place, bytes, hlocate⟩ := FileTree.isFile_eq_true.1 hfile
          simp only
          split
          · rename_i hname
            have hconfig : IsConfig readers t p ↔
                t.refuses .read place = false ∧ HasSettings readers bytes := by
              simp [IsConfig, hlocate, hname]
            have hpassed : (t.refuses .read place = false → ∀ fault, ¬Breaks readers bytes fault) →
                ¬(t.refuses .read place = false ∧ HasSettings readers bytes) →
                PassesOver readers t p := by
              refine fun hfits hnone => ⟨mt hconfig.1 hnone, ?_⟩
              rintro fault (hbarred | ⟨hlocate', -, hread, hbreaks⟩)
              · exact FileTree.not_barred_of_locate hlocate hbarred
              · cases hlocate.symm.trans hlocate'
                exact hfits hread _ hbreaks
            cases hrefused : t.refuses .read place with
            | true =>
                have hsection : projectSection t [] p readers =
                    .error (.projectUnreadable p .denied) := by
                  rw [projectSection, FileTree.read_of_refused hlocate hrefused]
                rw [hsection]
                exact .passed (hpassed (by simp [hrefused]) (by simp [hrefused]))
            | false =>
                have hsection : SectionOf readers p bytes (projectSection t [] p readers) :=
                  projectSection_sectionOf (FileTree.read_of_permitted hlocate hrefused)
                generalize projectSection t [] p readers = outcome at hsection ⊢
                cases hsection with
                | @entries c hfits h =>
                    cases c with
                    | nil => exact .passed (hpassed (fun _ => hfits) (by simp [← h]))
                    | cons entry c => exact .config (hconfig.2 ⟨hrefused, h.1 (by simp)⟩)
                | refused hfits hforeseen h =>
                    simp only [hforeseen, if_true]
                    exact .passed (hpassed (fun _ => hfits) (mt And.right h))
                | broken h =>
                    simp only [h.not_isForeseen, Bool.false_eq_true, if_false]
                    exact .broken (.project hlocate hname hrefused h)
          · rename_i hname
            exact .config ⟨place, bytes, hlocate, fun h => absurd h hname⟩

theorem accepts_eq_true : accepts readers t p = .ok true ↔ IsConfig readers t p := by
  have h := @accepts_accepted readers t p
  generalize accepts readers t p = outcome at h ⊢
  cases h with
  | config h => exact iff_of_true rfl h
  | passed h => exact iff_of_false (by simp) h.1
  | broken h => exact iff_of_false (by simp) h.not_isConfig

theorem accepts_eq_false : accepts readers t p = .ok false ↔ PassesOver readers t p := by
  have h := @accepts_accepted readers t p
  generalize accepts readers t p = outcome at h ⊢
  cases h with
  | config h => exact iff_of_false (by simp) fun h' => h'.1 h
  | passed h => exact iff_of_true rfl h
  | broken h => exact iff_of_false (by simp) fun h' => h'.2 _ h

theorem accepts_eq_error {fault : ConfigFault} :
    accepts readers t p = .error fault ↔ BreaksOff readers t p fault := by
  have h := @accepts_accepted readers t p
  generalize accepts readers t p = outcome at h ⊢
  cases h with
  | config h => exact iff_of_false (by simp) fun h' => h'.not_isConfig h
  | passed h => exact iff_of_false (by simp) fun h' => h.2 _ h'
  | @broken fault' h =>
      constructor
      · rintro ⟨⟩
        exact h
      · intro h'
        rw [h.unique h']

/-! ### Project files without settings -/

theorem accepts_congr {t' : FileTree} (h : t'.locate [] p = t.locate [] p)
    (hrefuses : t'.refuses = t.refuses) : accepts readers t' p = accepts readers t p := by
  simp only [accepts, FileTree.isFile, FileTree.stat, projectSection, FileTree.read,
    FileTree.permit, h, hrefuses]

/-- A path that leads to nothing is rejected. -/
theorem accepts_of_stat (h : t.stat [] p = .ok .absent) : accepts readers t p = .ok false := by
  rw [accepts, FileTree.isFile, h]
  rfl

/-- **A project file without settings is as good as missing**, unless its contents are not
foreseen. -/
theorem accepts_of_change {t' : FileTree} {above : List String} {bytes : List UInt8}
    (hchange : t.Change (above ++ [projectFileName]) bytes t')
    (hmissing : t.occupant? (above ++ [projectFileName]) = none)
    (hfits : ∀ fault, ¬Breaks readers bytes fault) (hnone : ¬HasSettings readers bytes)
    (hroot : p.isAbsolute = true) (hplain : ∀ n ∈ p.names, n ≠ "..") :
    accepts readers t' p = accepts readers t p := by
  cases hchange.locate [] p with
  -- A path that leads to the file now led to nothing before, so both are rejected.
  | here hafter hother =>
      have hname : p.name = projectFileName := by
        rw [Path.name, ← FileTree.locate_plain hroot hplain hafter, FileTree.Location.place,
          List.getLast?_concat]
        rfl
      rw [accepts_of_stat (hchange.stat_of_missing hmissing hafter), accepts_eq_false]
      constructor
      · rintro ⟨place, bytes', hlocate, hsettings⟩
        cases hafter.symm.trans hlocate
        exact hnone (hsettings hname).2
      · rintro fault (hbarred | ⟨hlocate, -, -, hbreaks⟩)
        · exact FileTree.not_barred_of_locate hafter hbarred
        · cases hafter.symm.trans hlocate
          exact hfits _ hbreaks
  | same heq => exact accepts_congr heq.symm hchange.refuses
  | blocked hbefore hafter _ =>
      have hstat : t.stat [] p = .ok .absent := by rw [FileTree.stat, hbefore]
      have hstat' : t'.stat [] p = .ok .absent := by rw [FileTree.stat, hafter]
      rw [accepts_of_stat hstat, accepts_of_stat hstat']

/-- The paths of a search spell the places that they lead to. -/
theorem plain_of_mem_chain {directory : List String} {start? : Option Path}
    (h : p ∈ chain directory start?) : p.isAbsolute = true ∧ ∀ n ∈ p.names, n ≠ ".." := by
  obtain ⟨place, hplace, hp⟩ := List.mem_flatMap.1 h
  obtain ⟨name, hname, rfl⟩ := List.mem_map.1 hp
  have hnames : ∀ n ∈ dedicatedNames ++ [projectFileName], n ≠ ".." := by decide
  have hstart : ∀ n ∈ startPlace directory start?, n ≠ ".." := Path.plain_absolute _ _
  refine ⟨rfl, fun n hn => ?_⟩
  rcases List.mem_append.1 hn with hn | hn
  · exact hstart n (((List.mem_inits _ _).1 (List.mem_reverse.1 hplace)).subset hn)
  · rw [List.mem_singleton.1 hn]
    exact hnames name hname

/-! ### Project files in general -/

variable (readers t)

/-- What a search along a list of paths comes to. -/
structure ProjectSearch (ps : List Path) (outcome : Except ConfigFault (Option Path)) : Prop where
  /-- It is broken off exactly by the first path that it does not pass over, if that one breaks it
  off. -/
  broken : ∀ fault, outcome = .error fault ↔ ∃ before p after, ps = before ++ p :: after ∧
    (∀ q ∈ before, PassesOver readers t q) ∧ BreaksOff readers t p fault
  /-- It finds the first path that it does not pass over, if that is one of a configuration file. -/
  found : ∀ p, outcome = .ok (some p) ↔ ∃ before after, ps = before ++ p :: after ∧
    (∀ q ∈ before, PassesOver readers t q) ∧ IsConfig readers t p
  /-- It finds nothing if it passes over all paths. -/
  nothing : outcome = .ok none ↔ ∀ q ∈ ps, PassesOver readers t q

/-- What the loading of a project file at a place with some contents comes to. -/
structure ProjectLoad (place : List String) (p : Path) (bytes : List UInt8)
    (outcome : Except ConfigFault ConfigEntries) : Prop where
  /-- It gives a table or a foreseen fault exactly if the contents are foreseen, or cannot be
  read. -/
  contained : ((∃ c, outcome = .ok c) ∨ ∃ fault, outcome = .error fault ∧ fault.isForeseen = true) ↔
    t.refuses .read place = true ∨ ∀ fault, ¬Breaks readers bytes fault
  /-- Contents that are not foreseen crash it. -/
  crashes : t.refuses .read place = false → ∀ fault, Breaks readers bytes fault →
    outcome = .error (fault p) ∧ (fault p).isForeseen = false

variable {readers t}

theorem projectSearch {directory : List String} {start? : Option Path}
    (hstart : ∀ start, start? = some start → ¬start.HasNull) :
    ProjectSearch readers t (chain directory start?)
      (findInParents t directory start? readers) := by
  have hnull : ¬((start?.getD { names := [] }).names.any fun n => n.toList.contains '\x00') := by
    rw [Path.any_null_iff]
    cases start? with
    | none =>
        rintro ⟨n, hn, -⟩
        cases hn
    | some start => exact hstart start rfl
  have hfirst : ∀ p, FirstKept (accepts readers t) (chain directory start?) p ↔
      ∃ before after, chain directory start? = before ++ p :: after ∧
        ∀ q ∈ before, PassesOver readers t q := by
    simp only [FirstKept, accepts_eq_false, implies_true]
  rw [findInParents_eq_findM?, if_neg hnull]
  constructor
  case broken =>
    intro fault
    simp only [findM?_error_iff, hfirst, accepts_eq_error]
    constructor
    · rintro ⟨p, ⟨before, after, hps, hbefore⟩, hbreaks⟩
      exact ⟨before, p, after, hps, hbefore, hbreaks⟩
    · rintro ⟨before, p, after, hps, hbefore, hbreaks⟩
      exact ⟨p, ⟨before, after, hps, hbefore⟩, hbreaks⟩
  case found =>
    intro p
    simp only [findM?_some_iff, hfirst, accepts_eq_true]
    constructor
    · rintro ⟨⟨before, after, hps, hbefore⟩, hconfig⟩
      exact ⟨before, after, hps, hbefore, hconfig⟩
    · rintro ⟨before, after, hps, hbefore, hconfig⟩
      exact ⟨⟨before, after, hps, hbefore⟩, hconfig⟩
  case nothing => simp only [findM?_none_iff, accepts_eq_false]

/-- A search finds the same without a project file that has no settings. -/
theorem findInParents_of_change {t' : FileTree} {directory above : List String}
    {start? : Option Path} {bytes : List UInt8}
    (hchange : t.Change (above ++ [projectFileName]) bytes t')
    (hmissing : t.occupant? (above ++ [projectFileName]) = none)
    (hfits : ∀ fault, ¬Breaks readers bytes fault) (hnone : ¬HasSettings readers bytes) :
    findInParents t' directory start? readers = findInParents t directory start? readers := by
  rw [findInParents_eq_findM?, findInParents_eq_findM?]
  congr 1
  refine findM?_congr fun p hp => ?_
  obtain ⟨hroot, hplain⟩ := plain_of_mem_chain hp
  exact accepts_of_change hchange hmissing hfits hnone hroot hplain

theorem projectLoad {directory place : List String} {bytes : List UInt8}
    (hlocate : t.locate directory p = .ok (.file place bytes))
    (hname : isProjectName p.name = true) :
    ProjectLoad readers t place p bytes (loadConfig t directory p readers) := by
  have hload : loadConfig t directory p readers = projectSection t directory p readers := by
    rw [loadConfig, FileTree.stat_eq_file.2 ⟨place, bytes, hlocate⟩]
    exact if_pos hname
  rw [hload]
  cases hrefused : t.refuses .read place with
  | true =>
      have hsection : projectSection t directory p readers =
          .error (.projectUnreadable p .denied) := by
        rw [projectSection, FileTree.read_of_refused hlocate hrefused]
      rw [hsection]
      exact ⟨iff_of_true (.inr ⟨_, rfl, rfl⟩) (.inl hrefused), by simp [hrefused]⟩
  | false =>
      have hsection : SectionOf readers p bytes (projectSection t directory p readers) :=
        projectSection_sectionOf (FileTree.read_of_permitted hlocate hrefused)
      generalize projectSection t directory p readers = outcome at hsection ⊢
      cases hsection with
      | entries hfits h =>
          exact ⟨iff_of_true (.inl ⟨_, rfl⟩) (.inr hfits),
            fun _ fault hbreaks => absurd hbreaks (hfits fault)⟩
      | refused hfits hforeseen h =>
          exact ⟨iff_of_true (.inr ⟨_, rfl, hforeseen⟩) (.inr hfits),
            fun _ fault hbreaks => absurd hbreaks (hfits fault)⟩
      | @broken fault h =>
          have hcrash := h.not_isForeseen p
          refine ⟨iff_of_false ?_ ?_, fun _ fault' h' => ?_⟩
          · rintro (⟨c, hc⟩ | ⟨found, hfound, hforeseen⟩)
            · cases hc
            · cases hfound
              rw [hcrash] at hforeseen
              cases hforeseen
          · rintro (hread | hfits)
            · rw [hrefused] at hread
              cases hread
            · exact hfits fault h
          · rw [← h.unique h']
            exact ⟨rfl, hcrash⟩

end

/-- **Project files of any contents**, however TOML is read.  A search passes over those without
settings for the program as if they were missing, and it is broken off by those whose contents are
not foreseen, as the loading of such a file is. -/
theorem project_contained (readers : ConfigReaders) (t : FileTree) (directory : List String) :
    (∀ start?, (∀ start, start? = some start → ¬start.HasNull) →
      ProjectSearch readers t (chain directory start?)
        (findInParents t directory start? readers)) ∧
    (∀ start? without above bytes,
      without.Change (above ++ [projectFileName]) bytes t →
      without.occupant? (above ++ [projectFileName]) = none →
      (∀ fault, ¬Breaks readers bytes fault) → ¬HasSettings readers bytes →
      findInParents t directory start? readers =
        findInParents without directory start? readers) ∧
    ∀ p place bytes, t.locate directory p = .ok (.file place bytes) →
      isProjectName p.name = true →
      ProjectLoad readers t place p bytes (loadConfig t directory p readers) :=
  ⟨fun _ hstart => projectSearch hstart,
    fun _ _ _ _ hchange hmissing hfits hnone =>
      findInParents_of_change hchange hmissing hfits hnone,
    fun _ _ _ hlocate hname => projectLoad hlocate hname⟩

/-- A directory below one with a file of the program's own. -/
def sharedAbove : FileTree :=
  .directory [(".org2bb.json", .file []), ("a", .directory [])]

/-- The contents of a project file in which the section of the program is a number. -/
def numberSection : List UInt8 := Text.utf8Encode "tool.org2bb = 1\n".toList

/-- The same directories with that project file in the lower one. -/
def sharedBelow : FileTree :=
  .directory [(".org2bb.json", .file []),
    ("a", .directory [("pyproject.toml", .file numberSection)])]

theorem change_shared :
    sharedAbove.Change (["a"] ++ [projectFileName]) numberSection sharedBelow := by
  have hput : sharedAbove.put ["a", "pyproject.toml"] (.file numberSection) = sharedBelow := by
    simp [sharedAbove, sharedBelow, FileTree.directory, FileTree.put, FileNode.put_cons,
      FileNode.put_nil, FileNode.children, lookupEntry, putEntry]
  rw [← hput]
  exact FileTree.change_put (.inr ⟨rfl, ["a"], _, rfl, rfl⟩) _

/-- A search passes over that project file, so it is foreseen and has no settings. -/
theorem numberSection_passed :
    (∀ fault, ¬Breaks .standard numberSection fault) ∧
      ¬HasSettings .standard numberSection := by
  have hfile : sharedBelow.locate [] (pathIn ["a"] projectFileName) =
      .ok (.file ["a", projectFileName] numberSection) := rfl
  have hrejected : (accepts .standard sharedBelow (pathIn ["a"] projectFileName)).toOption =
      some false := by decide +kernel
  have hpassed : PassesOver .standard sharedBelow (pathIn ["a"] projectFileName) := by
    rw [← accepts_eq_false]
    generalize accepts .standard sharedBelow (pathIn ["a"] projectFileName) = outcome at hrejected ⊢
    cases outcome with
    | error fault => cases hrejected
    | ok found => rw [Option.some.inj hrejected]
  exact ⟨fun fault h => hpassed.2 _ (.project hfile (name_pathIn _ _) rfl h),
    fun h => hpassed.1 ⟨_, _, hfile, fun _ => ⟨rfl, h⟩⟩⟩

/-- The theorem at a project file whose section is no table, which a search passes over. -/
theorem project_contained_number :
    ProjectSearch .standard sharedBelow (chain ["a"] none) (findInParents sharedBelow ["a"] none) ∧
      findInParents sharedBelow ["a"] none = findInParents sharedAbove ["a"] none ∧
      (findInParents sharedBelow ["a"] none).toOption =
        some (some (pathIn [] ".org2bb.json")) ∧
      ProjectLoad .standard sharedBelow ["a", projectFileName] (pathIn ["a"] projectFileName)
        numberSection
        (loadConfig sharedBelow ["a"] (pathIn ["a"] projectFileName)) := by
  obtain ⟨hfits, hnone⟩ := numberSection_passed
  obtain ⟨hsearch, hwithout, hload⟩ := project_contained .standard sharedBelow ["a"]
  exact ⟨hsearch none (by simp), hwithout none sharedAbove ["a"] _ change_shared rfl hfits hnone,
    by decide +kernel, hload (pathIn ["a"] projectFileName) ["a", projectFileName] _ rfl rfl⟩

/-- A project file in which all tools are a number aborts a search and cannot be loaded, for a
fault that is not foreseen. -/
theorem toolsNumber_breaks :
    let t : FileTree :=
      .directory [("pyproject.toml", .file (Text.utf8Encode "tool = 1\n".toList))]
    (findInParents t [] none matches .error (.toolsNotTable _)) = true ∧
      (loadConfig t [] (.ofString "pyproject.toml") matches .error (.toolsNotTable _)) = true ∧
      ∀ p, (ConfigFault.toolsNotTable p).isForeseen = false := by
  refine ⟨by decide +kernel, by decide +kernel, fun _ => rfl⟩

end ForumMarkup
