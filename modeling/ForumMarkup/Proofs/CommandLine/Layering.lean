import ForumMarkup.CommandLine.Layering
import ForumMarkup.Proofs.Storage.Change
/-
**What the options of a run depend on.**

The options of a run depend on its files only through the paths that the search for a configuration
file looks at, as far as it has to go, and through the file that is chosen.  So files that agree on
these paths give the same options.

Main definitions:

* `ForumMarkup.SameLook` — trees of files that agree on a path;
* `ForumMarkup.discoveryLooks`, `ForumMarkup.configLooks` — the paths that the search looks at, and
  all paths that a choice of options looks at.

Main results:

* `ForumMarkup.discover_congr` — the search finds the same;
* `ForumMarkup.loadConfig_congr` — a configuration file has the same mapping;
* `ForumMarkup.chooseConfig_congr`, `ForumMarkup.optionsOfChoice_congr`,
  `ForumMarkup.runOptions_congr` — **files that agree on these paths give the same options**.
-/

set_option autoImplicit false

namespace ForumMarkup

/-! ### Agreement -/

/-- Trees of files that agree on a path: it leads to the same, and a file has the same bytes. -/
structure SameLook (t t' : FileTree) (directory : List String) (p : Path) : Prop where
  stat : t'.stat directory p = t.stat directory p
  read : t.stat directory p = .ok .file → t'.read directory p = t.read directory p

namespace SameLook

variable {t t' : FileTree} {directory : List String} {p : Path}

theorem isFile (h : SameLook t t' directory p) :
    t'.isFile directory p = t.isFile directory p := by
  rw [FileTree.isFile, FileTree.isFile, h.stat]

theorem read_of_isFile (h : SameLook t t' directory p)
    (hfile : t.isFile directory p = .ok true) : t'.read directory p = t.read directory p := by
  refine h.read ?_
  rw [FileTree.isFile] at hfile
  cases hstat : t.stat directory p with
  | error fault =>
      rw [hstat] at hfile
      cases hfile
  | ok status =>
      rw [hstat] at hfile
      have hstatus : status = .file := by simpa [bind, Except.bind, pure, Except.pure] using hfile
      rw [hstatus]

/-- From the root on the directory in use makes no difference. -/
theorem of_isAbsolute (hp : p.isAbsolute = true) {directory' : List String}
    (h : SameLook t t' directory p) : SameLook t t' directory' p := by
  have hlocate : ∀ t : FileTree, t.locate directory' p = t.locate directory p := fun t =>
    FileTree.locate_of_isAbsolute hp t directory' directory
  have hstat : ∀ t : FileTree, t.stat directory' p = t.stat directory p := fun t => by
    rw [FileTree.stat, FileTree.stat, hlocate]
  have hread : ∀ t : FileTree, t.read directory' p = t.read directory p := fun t => by
    rw [FileTree.read, FileTree.read, hlocate]
  refine ⟨?_, fun hfile => ?_⟩
  · rw [hstat, hstat, h.stat]
  · rw [hread, hread]
    rw [hstat] at hfile
    exact h.read hfile

end SameLook

/-! ### What the search looks at -/

/-- The path of a name in a directory. -/
def pathIn (place : List String) (name : String) : Path := (Path.ofNames place).child name

/-- What the search for the first of some names in a directory looks at. -/
def firstFileLooks (t : FileTree) (place : List String) : List String → List Path
  | [] => []
  | name :: names =>
    pathIn place name ::
      match t.isFile [] (pathIn place name) with
      | .ok false => firstFileLooks t place names
      | _ => []

/-- What the search in a directory looks at. -/
def usableLooks (t : FileTree) (place : List String) : List Path :=
  firstFileLooks t place dedicatedNames ++
    match firstFile t place dedicatedNames with
    | .ok none => [pathIn place projectFileName]
    | _ => []

/-- What the search in a directory and above it looks at.  The directory is given by its names, the
last one first. -/
def aboveLooks (t : FileTree) : List String → List Path
  | [] => usableLooks t []
  | name :: above =>
    usableLooks t (name :: above).reverse ++
      match usableIn t (name :: above).reverse with
      | .ok none => aboveLooks t above
      | _ => []

/-- What the whole search looks at. -/
def discoveryLooks (t : FileTree) (directory home : List String) : List Path :=
  aboveLooks t (Path.absolute { names := [] } directory).reverse ++
    match findInParents t directory none with
    | .ok none => firstFileLooks t home dedicatedNames
    | _ => []

section

variable {t t' : FileTree} {place directory home : List String}

theorem firstFile_congr {names : List String}
    (h : ∀ p ∈ firstFileLooks t place names, SameLook t t' [] p) :
    firstFile t' place names = firstFile t place names := by
  induction names with
  | nil => rfl
  | cons name names ih =>
      rw [firstFileLooks] at h
      have hfirst : SameLook t t' [] (pathIn place name) := h _ List.mem_cons_self
      have hfile := hfirst.isFile
      rw [pathIn] at hfile
      rw [firstFile, firstFile, hfile]
      cases hlook : t.isFile [] ((Path.ofNames place).child name) with
      | error fault => rfl
      | ok found =>
          cases found with
          | true => rfl
          | false =>
              rw [pathIn, hlook] at h
              exact ih fun p hp => h p (List.mem_cons_of_mem _ hp)

theorem projectSection_congr {p : Path} {readers : ConfigReaders}
    (h : t'.read directory p = t.read directory p) :
    projectSection t' directory p readers = projectSection t directory p readers := by
  rw [projectSection, projectSection, h]

theorem hasProject_congr (h : SameLook t t' [] (pathIn place projectFileName)) :
    hasProject t' place = hasProject t place := by
  rw [pathIn] at h
  rw [hasProject, hasProject, h.isFile]
  cases hfile : t.isFile [] ((Path.ofNames place).child projectFileName) with
  | error fault => rfl
  | ok found =>
      cases found with
      | false => rfl
      | true => simp only [projectSection_congr (h.read_of_isFile hfile)]

theorem usableIn_congr (h : ∀ p ∈ usableLooks t place, SameLook t t' [] p) :
    usableIn t' place = usableIn t place := by
  have hfirst : firstFile t' place dedicatedNames = firstFile t place dedicatedNames :=
    firstFile_congr fun p hp => h p (List.mem_append_left _ hp)
  rw [usableIn, usableIn, hfirst]
  cases hfound : firstFile t place dedicatedNames with
  | error fault => rfl
  | ok found =>
      cases found with
      | some p => rfl
      | none =>
          have hproject : SameLook t t' [] (pathIn place projectFileName) := by
            refine h _ (List.mem_append_right _ ?_)
            rw [hfound]
            exact List.mem_singleton_self _
          simp only [hasProject_congr hproject]

theorem findAbove_congr {behind : List String}
    (h : ∀ p ∈ aboveLooks t behind, SameLook t t' [] p) :
    findAbove t' behind = findAbove t behind := by
  induction behind with
  | nil => exact usableIn_congr h
  | cons name above ih =>
      have hhere : usableIn t' (name :: above).reverse = usableIn t (name :: above).reverse :=
        usableIn_congr fun p hp => h p (List.mem_append_left _ hp)
      rw [findAbove, findAbove, hhere]
      cases hfound : usableIn t (name :: above).reverse with
      | error fault => rfl
      | ok found =>
          cases found with
          | some p => rfl
          | none =>
              refine ih fun p hp => h p (List.mem_append_right _ ?_)
              rw [hfound]
              exact hp

/-- The search finds the same. -/
theorem discover_congr (h : ∀ p ∈ discoveryLooks t directory home, SameLook t t' [] p) :
    discover t' directory home none = discover t directory home none := by
  have hparents : findInParents t' directory none = findInParents t directory none :=
    findAbove_congr fun p hp => h p (List.mem_append_left _ hp)
  rw [discover, discover, hparents]
  cases hfound : findInParents t directory none with
  | error fault => rfl
  | ok found =>
      cases found with
      | some p => rfl
      | none =>
          refine firstFile_congr fun p hp => h p (List.mem_append_right _ ?_)
          rw [hfound]
          exact hp

/-- A configuration file has the same mapping. -/
theorem loadConfig_congr {p : Path} {readers : ConfigReaders} (h : SameLook t t' directory p) :
    loadConfig t' directory p readers = loadConfig t directory p readers := by
  rw [loadConfig, loadConfig, h.stat]
  cases hstat : t.stat directory p with
  | error fault => rfl
  | ok status =>
      cases status with
      | absent => rfl
      | directory => rfl
      | file =>
          have hread := h.read hstat
          simp only [projectSection_congr hread, loadByFormat, hread]

end

/-! ### Options -/

/-- The configuration file that a command line names. -/
def namedConfig? (a : Arguments) : Option ConfigChoice :=
  (a.config?.bind FlagValue.given?).bind ConfigChoice.ofName?

/-- The paths that a choice of options looks at: those of the search, if there is one, and that of
the chosen file. -/
def configLooks (t : FileTree) (s : Surroundings) (a : Arguments) : List Path :=
  (if (namedConfig? a).isNone && !a.noConfig && s.configVariable?.isNone then
      discoveryLooks t s.directory s.home
    else []) ++
  match chooseConfig t s a with
  | .ok (some choice) => [choice.path]
  | _ => []

section

variable {t t' : FileTree} {s : Surroundings} {a : Arguments}

theorem isAbsolute_of_mem_firstFileLooks {place names : List String} {p : Path}
    (h : p ∈ firstFileLooks t place names) : p.isAbsolute = true := by
  induction names with
  | nil => cases h
  | cons name names ih =>
      rw [firstFileLooks] at h
      rcases List.mem_cons.1 h with rfl | h
      · rfl
      · split at h
        · exact ih h
        · cases h

theorem isAbsolute_of_mem_usableLooks {place : List String} {p : Path}
    (h : p ∈ usableLooks t place) : p.isAbsolute = true := by
  rcases List.mem_append.1 h with h | h
  · exact isAbsolute_of_mem_firstFileLooks h
  · split at h
    · rw [List.mem_singleton.1 h]
      rfl
    · cases h

theorem isAbsolute_of_mem_aboveLooks {behind : List String} {p : Path}
    (h : p ∈ aboveLooks t behind) : p.isAbsolute = true := by
  induction behind with
  | nil => exact isAbsolute_of_mem_usableLooks h
  | cons name above ih =>
      rcases List.mem_append.1 h with h | h
      · exact isAbsolute_of_mem_usableLooks h
      · split at h
        · exact ih h
        · cases h

/-- The paths of the search are looked up from the root on. -/
theorem isAbsolute_of_mem_discoveryLooks {directory home : List String} {p : Path}
    (h : p ∈ discoveryLooks t directory home) : p.isAbsolute = true := by
  rcases List.mem_append.1 h with h | h
  · exact isAbsolute_of_mem_aboveLooks h
  · split at h
    · exact isAbsolute_of_mem_firstFileLooks h
    · cases h

theorem chooseConfig_congr (h : ∀ p ∈ configLooks t s a, SameLook t t' s.directory p) :
    chooseConfig t' s a = chooseConfig t s a := by
  rw [chooseConfig, chooseConfig]
  cases hnamed : (a.config?.bind FlagValue.given?).bind ConfigChoice.ofName? with
  | some choice => rfl
  | none =>
      simp only
      rw [chooseUnnamed, chooseUnnamed]
      cases hno : a.noConfig with
      | true => rfl
      | false =>
          cases hvariable : s.configVariable? with
          | some name => rfl
          | none =>
              have hsearch : ∀ p ∈ discoveryLooks t s.directory s.home, SameLook t t' [] p := by
                intro p hp
                refine (h p (List.mem_append_left _ ?_)).of_isAbsolute
                  (isAbsolute_of_mem_discoveryLooks hp)
                rw [namedConfig?, hnamed, hno, hvariable]
                exact hp
              simp only [discover_congr hsearch]

theorem optionsOfChoice_congr {choice? : Option ConfigChoice}
    (h : ∀ choice, choice? = some choice → SameLook t t' s.directory choice.path) :
    optionsOfChoice t' s a choice? = optionsOfChoice t s a choice? := by
  cases choice? with
  | none => rfl
  | some choice =>
      rw [optionsOfChoice, optionsOfChoice]
      simp only [loadConfig_congr (h choice rfl)]

theorem path_mem_configLooks {choice : ConfigChoice}
    (h : chooseConfig t s a = .ok (some choice)) : choice.path ∈ configLooks t s a := by
  refine List.mem_append_right _ ?_
  rw [h]
  exact List.mem_singleton_self _

/-- **Files that agree on the paths that are looked at give the same options.** -/
theorem runOptions_congr (h : ∀ p ∈ configLooks t s a, SameLook t t' s.directory p) :
    runOptions t' s a = runOptions t s a := by
  rw [runOptions, runOptions, chooseConfig_congr h]
  cases hchoice : chooseConfig t s a with
  | error fault => rfl
  | ok choice? =>
      refine optionsOfChoice_congr fun choice hsome => h _ (path_mem_configLooks ?_)
      rw [hchoice, hsome]

end

end ForumMarkup
