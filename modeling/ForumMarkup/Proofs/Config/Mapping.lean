import ForumMarkup.Config.File
import ForumMarkup.Proofs.Storage.Fault
/-
**The contents of a configuration file that are a mapping.**

The ending of a file's name, in letters of either case, says which format the contents follow, and
the value that they are in this format has to be a mapping.  One format is more lenient: a YAML file
may also hold a null, false, a zero, an empty text or an empty list, and all of these stand for the
mapping without entries.  Everything else is refused.  None of this depends on how the formats are
read.

Main definitions:

* `ForumMarkup.ConfigFormat.endings`, `ForumMarkup.ConfigFormat.parse` — the endings of a format,
  and the value of contents in it;
* `ForumMarkup.Setting.Blank` — the values that count as absent;
* `ForumMarkup.MappingOf` — **the mapping that a value stands for**;
* `ForumMarkup.LoadsMapping` — what is said of the loading of a file.

Main results:

* `ForumMarkup.Setting.blank_iff` — the blank values are all those that do not count as given;
* `ForumMarkup.mappingOfContents_read` — what contents come to in a format;
* `ForumMarkup.loadConfig_accepts` — **which files are loaded**, as which mapping, and for which
  fault the others are refused.
-/

set_option autoImplicit false

namespace ForumMarkup

/-! ### Formats -/

namespace ConfigFormat

/-- The endings of a format, in small letters. -/
def endings : ConfigFormat → List String
  | .toml => [".toml"]
  | .yaml => [".yaml", ".yml"]
  | .json => [".json"]

/-- The value of contents, as it is read. -/
def parse (readers : ConfigReaders) (format : ConfigFormat) (bytes : List UInt8) :
    Except ContentFault Setting :=
  match format with
  | .toml => (readers.toml bytes).map .mapping
  | .yaml => readers.yaml bytes
  | .json => readers.json bytes

/-- Blank values of YAML are read as mappings, all others as they are. -/
theorem read_eq_map_parse (readers : ConfigReaders) (format : ConfigFormat) (bytes : List UInt8) :
    format.read bytes readers = (format.parse readers bytes).map fun v =>
      if format = .yaml ∧ v.truthy = false then .mapping [] else v := by
  cases format with
  | toml => cases h : readers.toml bytes <;> simp [read, parse, h, Except.map]
  | yaml =>
      cases h : readers.yaml bytes with
      | error fault => simp [read, parse, h, Except.map]
      | ok v => cases hv : v.truthy <;> simp [read, parse, h, hv, Except.map]
  | json => cases h : readers.json bytes <;> simp [read, parse, h, Except.map]

theorem ofSuffix?_eq_some {suffix : String} {format : ConfigFormat} :
    ofSuffix? suffix = some format ↔ Text.lower suffix ∈ format.endings := by
  rw [ofSuffix?]
  split <;> rename_i h
  case h_5 => cases format <;> simp_all [endings]
  all_goals
    rw [h]
    cases format <;> decide

/-- A name has one format at most. -/
theorem endings_unique {ending : String} {format format' : ConfigFormat}
    (h : Text.lower ending ∈ format.endings) (h' : Text.lower ending ∈ format'.endings) :
    format = format' :=
  Option.some.inj ((ofSuffix?_eq_some.2 h).symm.trans (ofSuffix?_eq_some.2 h'))

theorem ofSuffix?_eq_none {suffix : String} :
    ofSuffix? suffix = none ↔ ∀ format : ConfigFormat, Text.lower suffix ∉ format.endings := by
  simp only [Option.eq_none_iff_forall_ne_some, ne_eq, ofSuffix?_eq_some]

end ConfigFormat

/-! ### Values -/

/-- A value is a null, false, a zero or empty. -/
inductive Setting.Blank : Setting → Prop
  | null : Blank .null
  | false : Blank (.bool false)
  | int : Blank (.int 0)
  | float {x : Binary64} (h : x.isZero = true) : Blank (.float x)
  | text : Blank (.text "")
  | bytes : Blank (.bytes [])
  | list : Blank (.list [])
  | set : Blank (.set [])
  | mapping : Blank (.mapping [])

/-- The blank values are those that do not count as given. -/
theorem Setting.blank_iff {v : Setting} : v.Blank ↔ v.truthy = false := by
  constructor
  · rintro (_ | _ | _ | h | _ | _ | _ | _ | _)
    case float => simp [Setting.truthy, h]
    all_goals rfl
  · intro h
    cases v with
    | null => exact .null
    | bool b =>
        cases h
        exact .false
    | int n =>
        cases (by simpa [Setting.truthy] using h : n = 0)
        exact .int
    | float x => exact .float (by simpa [Setting.truthy] using h)
    | text s =>
        cases (by simpa [Setting.truthy] using h : s = "")
        exact .text
    | bytes bs =>
        cases (by simpa [Setting.truthy] using h : bs = [])
        exact .bytes
    | list items =>
        cases (by simpa [Setting.truthy] using h : items = [])
        exact .list
    | set members =>
        cases (by simpa [Setting.truthy] using h : members = [])
        exact .set
    | mapping entries =>
        cases (by simpa [Setting.truthy] using h : entries = [])
        exact .mapping
    | day | clock | moment | pair => cases h

/-- The value of a file stands for a mapping: it is this mapping, or a blank value in YAML, which
stands for the mapping without entries. -/
inductive MappingOf : ConfigFormat → Setting → ConfigEntries → Prop
  | mapping {format : ConfigFormat} {c : ConfigEntries} : MappingOf format (.mapping c) c
  | blank {v : Setting} (h : v.Blank) : MappingOf .yaml v []

theorem MappingOf.unique {format : ConfigFormat} {v : Setting} {c c' : ConfigEntries}
    (h : MappingOf format v c) (h' : MappingOf format v c') : c = c' := by
  cases h with
  | mapping =>
      cases h' with
      | mapping => rfl
      | blank hblank =>
          cases hblank
          rfl
  | blank hblank =>
      cases h' with
      | mapping =>
          cases hblank
          rfl
      | blank => rfl

/-! ### Contents and files -/

section

variable (readers : ConfigReaders) (p : Path) (bytes : List UInt8)

/-- Contents are refused in a format. -/
inductive RefusedIn (format : ConfigFormat) : ConfigFault → Prop
  /-- They do not follow the format. -/
  | contents {fault : ContentFault} (h : format.parse readers bytes = .error fault) :
      RefusedIn format (.contents p fault)
  /-- They are a value that stands for no mapping. -/
  | value {v : Setting} (h : format.parse readers bytes = .ok v)
      (hv : ∀ c, ¬MappingOf format v c) : RefusedIn format (.notMapping p v.typeName)

/-- What contents come to in a format. -/
inductive ReadIn (format : ConfigFormat) : Except ConfigFault ConfigEntries → Prop
  | mapping {v : Setting} {c : ConfigEntries} (h : format.parse readers bytes = .ok v)
      (hv : MappingOf format v c) : ReadIn format (.ok c)
  | refused {fault : ConfigFault} (h : RefusedIn readers p bytes format fault) :
      ReadIn format (.error fault)

/-- A file is refused for its ending or for its contents. -/
inductive RefusedFile : ConfigFault → Prop
  | ending (h : ∀ format : ConfigFormat, Text.lower p.suffix ∉ format.endings) :
      RefusedFile (.format (Text.lower p.suffix))
  | contents {format : ConfigFormat} {fault : ConfigFault}
      (hending : Text.lower p.suffix ∈ format.endings)
      (h : RefusedIn readers p bytes format fault) : RefusedFile fault

/-- What the loading of a file with some contents comes to. -/
structure LoadsMapping (outcome : Except ConfigFault ConfigEntries) : Prop where
  /-- It gives the mapping that the value of the contents stands for. -/
  accepted : ∀ c, outcome = .ok c ↔ ∃ (format : ConfigFormat) (v : Setting),
    Text.lower p.suffix ∈ format.endings ∧ format.parse readers bytes = .ok v ∧
      MappingOf format v c
  /-- The file is refused for its ending or for its contents. -/
  refused : ∀ fault, outcome = .error fault ↔ RefusedFile readers p bytes fault
  /-- A refusal is a fault that is told to the user, unless the reader fails for another one. -/
  foreseen : ∀ fault, outcome = .error fault → (fault.isForeseen = true ↔
    ∀ (format : ConfigFormat) (found : ContentFault), Text.lower p.suffix ∈ format.endings →
      format.parse readers bytes = .error found → found.isForeseen = true)

end

section

variable {readers : ConfigReaders} {p : Path} {bytes : List UInt8} {format : ConfigFormat}

theorem RefusedIn.not_accepted {fault : ConfigFault} {v : Setting} {c : ConfigEntries}
    (h : RefusedIn readers p bytes format fault) (hparse : format.parse readers bytes = .ok v) :
    ¬MappingOf format v c := by
  cases h with
  | contents h => cases h.symm.trans hparse
  | value h hv =>
      cases h.symm.trans hparse
      exact hv c

theorem RefusedIn.unique {fault fault' : ConfigFault}
    (h : RefusedIn readers p bytes format fault) (h' : RefusedIn readers p bytes format fault') :
    fault = fault' := by
  cases h with
  | contents h =>
      cases h' with
      | contents h' =>
          cases h.symm.trans h'
          rfl
      | value h' hv => cases h.symm.trans h'
  | value h hv =>
      cases h' with
      | contents h' => cases h.symm.trans h'
      | value h' hv' =>
          cases h.symm.trans h'
          rfl

/-- Contents that follow the format are refused for a fault that is foreseen. -/
theorem RefusedIn.isForeseen_iff {fault : ConfigFault}
    (h : RefusedIn readers p bytes format fault) : fault.isForeseen = true ↔
      ∀ found, format.parse readers bytes = .error found → found.isForeseen = true := by
  cases h with
  | @contents found h =>
      have hsaid : (ConfigFault.contents p found).isForeseen = found.isForeseen := by
        cases hfound : found.isForeseen <;>
          simp [ConfigFault.isForeseen, ConfigFault.message?, hfound]
      rw [hsaid]
      simp [h]
  | value h hv => simp [h, ConfigFault.isForeseen, ConfigFault.message?]

/-- **What contents come to in a format.** -/
theorem mappingOfContents_read :
    ReadIn readers p bytes format (mappingOfContents p format bytes readers) := by
  rw [mappingOfContents, ConfigFormat.read_eq_map_parse]
  cases hparse : format.parse readers bytes with
  | error fault => exact .refused (.contents hparse)
  | ok v =>
      simp only [Except.map]
      by_cases hblank : format = .yaml ∧ v.truthy = false
      · rw [if_pos hblank]
        obtain ⟨rfl, hfalsy⟩ := hblank
        exact .mapping hparse (.blank (Setting.blank_iff.2 hfalsy))
      · rw [if_neg hblank]
        cases v with
        | mapping c => exact .mapping hparse .mapping
        -- No other value stands for a mapping, unless it is blank.
        | _ =>
            refine .refused (.value hparse ?_)
            rintro c (_ | hvalue)
            exact hblank ⟨rfl, Setting.blank_iff.1 hvalue⟩

/-- A file whose ending is of no format is refused. -/
theorem loadsMapping_of_ending
    (h : ∀ format : ConfigFormat, Text.lower p.suffix ∉ format.endings) :
    LoadsMapping readers p bytes (.error (.format (Text.lower p.suffix))) where
  accepted c := iff_of_false (by simp) fun ⟨format, _, hending, _⟩ => h format hending
  refused fault := by
    constructor
    · rintro ⟨⟩
      exact .ending h
    · rintro (_ | ⟨hending, _⟩)
      · rfl
      · exact absurd hending (h _)
  foreseen := by
    rintro fault ⟨⟩
    exact iff_of_true rfl fun format _ hending => absurd hending (h format)

/-- A file is what its contents come to in the format of its ending. -/
theorem loadsMapping_of_readIn {outcome : Except ConfigFault ConfigEntries}
    (hending : Text.lower p.suffix ∈ format.endings) (h : ReadIn readers p bytes format outcome) :
    LoadsMapping readers p bytes outcome := by
  have hformat : ∀ format', Text.lower p.suffix ∈ format'.endings → format' = format :=
    fun format' hending' => ConfigFormat.endings_unique hending' hending
  cases h with
  | @mapping v c hparse hv =>
      constructor
      case accepted =>
        intro c'
        constructor
        · rintro ⟨⟩
          exact ⟨format, v, hending, hparse, hv⟩
        · rintro ⟨format', v', hending', hparse', hv'⟩
          cases hformat format' hending'
          cases hparse.symm.trans hparse'
          rw [hv.unique hv']
      case refused =>
        refine fun fault => iff_of_false (by simp) ?_
        rintro (hnone | ⟨hending', hrefused⟩)
        · exact hnone format hending
        · cases hformat _ hending'
          exact hrefused.not_accepted hparse hv
      case foreseen => simp
  | @refused fault h =>
      constructor
      case accepted =>
        refine fun c => iff_of_false (by simp) ?_
        rintro ⟨format', v, hending', hparse, hv⟩
        cases hformat format' hending'
        exact h.not_accepted hparse hv
      case refused =>
        intro fault'
        constructor
        · rintro ⟨⟩
          exact .contents hending h
        · rintro (hnone | ⟨hending', hrefused⟩)
          · exact absurd hending (hnone format)
          · cases hformat _ hending'
            rw [h.unique hrefused]
      case foreseen =>
        rintro fault' ⟨⟩
        rw [h.isForeseen_iff]
        constructor
        · intro hfound format' found hending'
          cases hformat format' hending'
          exact hfound found
        · exact fun hfound found => hfound format found hending

end

/-- **Which files are loaded**, however the formats are read.  A file that may be read gives the
mapping that its value in the format of its ending stands for, and is refused if there is no such
format, value or mapping; one that may not be read is refused for that.  Only a file with the name
of a project file, in letters of either case, is read as one. -/
theorem loadConfig_accepts {readers : ConfigReaders} {files : FileTree}
    {directory place : List String} {p : Path} {bytes : List UInt8}
    (hfile : files.locate directory p = .ok (.file place bytes)) :
    (isProjectName p.name = false → files.refuses .read place = false →
      LoadsMapping readers p bytes (loadConfig files directory p readers)) ∧
    (isProjectName p.name = false → files.refuses .read place = true →
      loadConfig files directory p readers = .error (.unreadable p .denied)) ∧
    (isProjectName p.name = true →
      loadConfig files directory p readers = projectSection files directory p readers) := by
  have hload : isProjectName p.name = false →
      loadConfig files directory p readers = loadByFormat files directory p readers := by
    intro hname
    rw [loadConfig, FileTree.stat_eq_file.2 ⟨place, bytes, hfile⟩]
    simp only [hname, Bool.false_eq_true, if_false]
  refine ⟨fun hname hread => ?_, fun hname hread => ?_, fun hname => ?_⟩
  · rw [hload hname, loadByFormat, FileTree.read_of_permitted hfile hread]
    cases hformat : ConfigFormat.ofSuffix? p.suffix with
    | none => exact loadsMapping_of_ending (ConfigFormat.ofSuffix?_eq_none.1 hformat)
    | some format =>
        exact loadsMapping_of_readIn (ConfigFormat.ofSuffix?_eq_some.1 hformat)
          mappingOfContents_read
  · rw [hload hname, loadByFormat, FileTree.read_of_refused hfile hread]
  · rw [loadConfig, FileTree.stat_eq_file.2 ⟨place, bytes, hfile⟩]
    exact if_pos hname

/-- A directory with an empty list in JSON and two blank values in YAML. -/
def blankFiles : FileTree :=
  .directory [("c.json", .file (Text.utf8Encode "[]".toList)),
    ("c.yaml", .file (Text.utf8Encode "[]".toList)),
    ("d.YML", .file (Text.utf8Encode "false".toList))]

/-- The theorem at the file that is false and has capitals in its ending. -/
theorem loadConfig_accepts_false :
    LoadsMapping .standard (.ofNames ["d.YML"]) (Text.utf8Encode "false".toList)
        (loadConfig blankFiles [] (.ofNames ["d.YML"])) ∧
      (loadConfig blankFiles [] (.ofNames ["d.YML"])).toOption.map List.length = some 0 := by
  have hfile : blankFiles.locate [] (.ofNames ["d.YML"]) =
      .ok (.file ["d.YML"] (Text.utf8Encode "false".toList)) := rfl
  exact ⟨(loadConfig_accepts hfile).1 (by decide +kernel) rfl, by decide +kernel⟩

/-- An empty list is refused in JSON and loaded as a mapping in YAML. -/
theorem emptyList_loaded :
    (ConfigFormat.json.parse .standard (Text.utf8Encode "[]".toList) matches .ok (.list [])) =
        true ∧
      (loadConfig blankFiles [] (.ofNames ["c.json"]) matches .error (.notMapping _ "list")) =
        true ∧
      (ConfigFormat.yaml.parse .standard (Text.utf8Encode "[]".toList) matches .ok (.list [])) =
        true ∧
      (loadConfig blankFiles [] (.ofNames ["c.yaml"]) matches .ok []) = true :=
  ⟨by decide +kernel, by decide +kernel, by decide +kernel, by decide +kernel⟩

end ForumMarkup
