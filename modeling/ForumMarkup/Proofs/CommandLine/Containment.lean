import ForumMarkup.Proofs.CommandLine.Precedence
import ForumMarkup.Proofs.CommandLine.Run
import ForumMarkup.Proofs.Config.Keys
import ForumMarkup.Proofs.Document.Escape
/-
**Which faults a run tells.**

A configuration file whose mapping is read, and an input file whatever its bytes, end a run with a
message and the exit code for wrong options and documents, if they are not fine.  There are
exceptions on both ways: a key of the mapping that is no text, and the faults of loading that
escape, crash the run.

Main definitions:

* `ForumMarkup.Outcome.Tells` — a run ends with a message;
* `ForumMarkup.Reaches` — a run over a command line has set up its log;
* `ForumMarkup.AcceptedMapping`, `ForumMarkup.AcceptedRun` — what a configuration mapping comes to;
* `ForumMarkup.ContainedRun` — what a fault of the input file comes to.

Main results:

* `ForumMarkup.config_contained` — **a configuration mapping crashes a run only by a key that is no
  text**;
* `ForumMarkup.input_contained` — **an input file crashes a run only by the faults that escape**.
-/

set_option autoImplicit false

namespace ForumMarkup

/-! ### Endings with a message -/

/-- A run exits with a code and prints nothing, and the last thing that it tells is a message. -/
structure Outcome.Tells (outcome : Outcome) (code : Nat) (message : String) : Prop where
  ending : outcome.ending = .exit code
  output : outcome.output = ""
  errors : ∃ before, WholeLines before ∧ outcome.errors = before ++ "Error: " ++ message ++ "\n"

/-- A run over a command line has set up its log, and is in a session then. -/
structure Reaches (files : FileTree) (s : Surroundings) (line : List String) (a : Arguments)
    (s₁ : Session) : Prop where
  read : readArguments line = .ok a
  configured : (Session.start files s).configure a = .ok ((), s₁)

namespace Session

variable {log? : Option (List String)} {t : FileTree} {around : Surroundings} {s s' : Session}
  {a : Arguments}

theorem Keeps.tells (h : s.Keeps log? t around) (code : Nat) (message : String) :
    (s.refuse code message).Tells code message :=
  ⟨rfl, rfl, s.journal.console, h.journal.console, rfl⟩

/-- Putting the options together keeps the invariant of a session. -/
theorem Keeps.of_options (h : s.Keeps log? t around) {o : Options}
    (hoptions : s.options a = .ok (o, s')) : s'.Keeps log? t around := by
  rw [options] at hoptions
  split at hoptions
  · cases hoptions
  · simp only at hoptions
    split at hoptions
    · cases hoptions
    · cases hoptions
      exact h.note _

/-- Once a configuration file is chosen and read, the options are those of its mapping and of the
flags. -/
theorem options_of_loadConfig {choice : ConfigChoice} {c : ConfigEntries}
    (hchoice : chooseConfig s.journal.files s.surroundings a = .ok (some choice))
    (hload : loadConfig (s.note [.configuration choice.name]).journal.files
      s.surroundings.directory choice.path s.surroundings.readers = .ok c) :
    s.options a =
      match layerOptions c a.settings with
      | .error fault => .error ((s.note [.configuration choice.name]).refuseLayers (.option fault))
      | .ok o => .ok (o, s.note [.configuration choice.name]) := by
  have hlayers : optionsOfChoice (s.note [.configuration choice.name]).journal.files
      (s.note [.configuration choice.name]).surroundings a (some choice) =
        (layerOptions c a.settings).mapError .option := by
    have hsame : (s.note [.configuration choice.name]).surroundings = s.surroundings := rfl
    rw [optionsOfChoice, hsame]
    simp only [hload]
    rfl
  rw [options, hchoice]
  simp only [Option.toList_some, List.map_cons, List.map_nil, hlayers]
  cases layerOptions c a.settings <;> rfl

end Session

namespace Reaches

variable {files : FileTree} {s : Surroundings} {line : List String} {a : Arguments} {s₁ : Session}

theorem keeps (h : Reaches files s line a s₁) :
    s₁.Keeps (logPlace? files s a) (openedFiles files s a) s := by
  rcases configure_cases files s a with ⟨s', c, hcrash⟩ | ⟨s', hok, hkeeps⟩
  · cases h.configured.symm.trans hcrash
  · cases h.configured.symm.trans hok
    exact hkeeps

/-- A run without options ends there. -/
theorem run_of_options_error (h : Reaches files s line a s₁) {outcome : Outcome}
    (hoptions : s₁.options a = .error outcome) : run files s line = outcome := by
  rw [run_eq h.read, Session.steps, h.configured]
  simp only [bind, Except.bind, hoptions]

/-- A run without a document ends there. -/
theorem run_of_document_error (h : Reaches files s line a s₁) {o : Options} {s₂ : Session}
    (hoptions : s₁.options a = .ok (o, s₂)) {outcome : Outcome}
    (hdocument : s₂.document a = .error outcome) : run files s line = outcome := by
  rw [run_eq h.read, Session.steps, h.configured]
  simp only [bind, Except.bind, hoptions, hdocument]

end Reaches

/-! ### Configuration mappings -/

/-- What the mapping of the configuration file at a path comes to. -/
structure AcceptedMapping (p : Path) (c : ConfigEntries) : Prop where
  /-- The first key that is no text is a fault that is not foreseen. -/
  crashes : ∀ key, Options.ofMapping c = .error (.keyNotText key) ↔ oddKey? c = some key
  /-- There is no such key unless the file is YAML. -/
  yaml : ∀ key, oddKey? c = some key →
    isProjectName p.name = false ∧ ConfigFormat.ofSuffix? p.suffix = some .yaml
  /-- Otherwise keys that spell no field count for nothing. -/
  others : oddKey? c = none →
    Options.ofMapping (c.filter fun e => e.1.isOption) = Options.ofMapping c
  /-- There are options, or a setting of a wrong type is refused, exactly if there is no such
  key. -/
  contained : ((∃ o, Options.ofMapping c = .ok o) ∨
      ∃ (field : OptionField) (v : Setting), Options.ofMapping c = .error (field.refusal v)) ↔
    oddKey? c = none

/-- What a run comes to whose configuration file has a mapping. -/
structure AcceptedRun (files : FileTree) (s : Surroundings) (line : List String) (a : Arguments)
    (s₁ : Session) (c : ConfigEntries) : Prop where
  /-- A key that is no text crashes it. -/
  crashes : ∀ key, oddKey? c = some key →
    (run files s line).ending = .crash (.layers (.option (.keyNotText key)))
  /-- It goes on with options, or tells what is wrong with a setting, exactly if there is no such
  key. -/
  contained : ((∃ o s₂, s₁.options a = .ok (o, s₂)) ∨
      ∃ (field : OptionField) (v : Setting),
        (run files s line).Tells validationCode (field.refusal v).message) ↔
    oddKey? c = none

theorem OptionField.refusal_ne_keyNotText (field : OptionField) (v key : Setting) :
    field.refusal v ≠ .keyNotText key := by
  rw [OptionField.refusal]
  split <;> exact fun h => by cases h

theorem OptionField.message?_refusal (field : OptionField) (v : Setting) :
    (LayerFault.option (field.refusal v)).message? = some (field.refusal v).message := by
  rw [OptionField.refusal]
  split <;> rfl

/-- The options of a mapping whose keys are texts, or the refusal of one of its settings. -/
theorem ofMapping_of_texts {c : ConfigEntries} (h : oddKey? c = none) :
    (∃ o, Options.ofMapping c = .ok o) ∨
      ∃ (field : OptionField) (v : Setting), Options.ofMapping c = .error (field.refusal v) := by
  have hlayered := layered_ofMapping h
  generalize Options.ofMapping c = options at hlayered ⊢
  cases hlayered with
  | granted _ _ => exact .inl ⟨_, rfl⟩
  | refused _ => exact .inr ⟨_, _, rfl⟩

theorem acceptedMapping {files : FileTree} {directory : List String} {p : Path} {c : ConfigEntries}
    {yaml : List UInt8 → Except ContentFault Setting}
    (h : loadConfig files directory p { ConfigReaders.standard with yaml := yaml } = .ok c) :
    AcceptedMapping p c := by
  have hapart : ∀ key, Options.ofMapping c = .error (.keyNotText key) →
      ¬((∃ o, Options.ofMapping c = .ok o) ∨
        ∃ (field : OptionField) (v : Setting), Options.ofMapping c = .error (field.refusal v)) := by
    rintro key hkey (⟨o, ho⟩ | ⟨field, v, hrefused⟩)
    · cases hkey.symm.trans ho
    · exact field.refusal_ne_keyNotText v key (Except.error.inj (hrefused.symm.trans hkey))
  constructor
  case crashes =>
    refine fun key => ⟨fun hkey => ?_, ofMapping_of_oddKey⟩
    cases hodd : oddKey? c with
    | some key' =>
        rw [ofMapping_of_oddKey hodd] at hkey
        cases hkey
        rfl
    | none => exact absurd (ofMapping_of_texts hodd) (hapart key hkey)
  case yaml => exact fun key => yaml_of_oddKey h
  case others => exact ofMapping_filter
  case contained =>
    refine ⟨fun hoptions => ?_, ofMapping_of_texts⟩
    cases hodd : oddKey? c with
    | none => rfl
    | some key => exact absurd hoptions (hapart key (ofMapping_of_oddKey hodd))

theorem layerOptions_of_oddKey {c : ConfigEntries} {key : Setting} (h : oddKey? c = some key)
    (flags : List (OptionField × Setting)) : layerOptions c flags = .error (.keyNotText key) := by
  rw [layerOptions, ofMapping_of_oddKey h]
  rfl

section

variable {files : FileTree} {s : Surroundings} {line : List String} {a : Arguments} {s₁ : Session}
  {choice : ConfigChoice} {c : ConfigEntries}

theorem Reaches.options_eq (h : Reaches files s line a s₁)
    (hchoice : chooseConfig s₁.journal.files s a = .ok (some choice))
    (hload : loadConfig (s₁.note [.configuration choice.name]).journal.files s.directory
      choice.path s.readers = .ok c) :
    s₁.options a =
      match layerOptions c a.settings with
      | .error fault => .error ((s₁.note [.configuration choice.name]).refuseLayers (.option fault))
      | .ok o => .ok (o, s₁.note [.configuration choice.name]) := by
  rw [← h.keeps.around] at hchoice hload
  exact Session.options_of_loadConfig hchoice hload

theorem acceptedRun (h : Reaches files s line a s₁)
    (hchoice : chooseConfig s₁.journal.files s a = .ok (some choice))
    (hload : loadConfig (s₁.note [.configuration choice.name]).journal.files s.directory
      choice.path s.readers = .ok c) : AcceptedRun files s line a s₁ c := by
  have hoptions := h.options_eq hchoice hload
  have hcrash : ∀ {key}, oddKey? c = some key →
      s₁.options a = .error ((s₁.note [.configuration choice.name]).crash
        (.layers (.option (.keyNotText key)))) := by
    intro key hodd
    rw [hoptions, layerOptions_of_oddKey hodd]
    rfl
  have hrefused : ∀ {field : OptionField} {v : Setting},
      s₁.options a = .error ((s₁.note [.configuration choice.name]).refuseLayers
        (.option (field.refusal v))) →
      (run files s line).Tells validationCode (field.refusal v).message := by
    intro field v hoptions
    rw [h.run_of_options_error hoptions, Session.refuseLayers, field.message?_refusal v]
    exact (h.keeps.note _).tells _ _
  constructor
  case crashes =>
    intro key hodd
    rw [h.run_of_options_error (hcrash hodd)]
    rfl
  case contained =>
    constructor
    · intro houtcome
      cases hodd : oddKey? c with
      | none => rfl
      | some key =>
          rcases houtcome with ⟨o, s₂, hok⟩ | ⟨field, v, htells⟩
          · cases (hcrash hodd).symm.trans hok
          · have hending := htells.ending
            rw [h.run_of_options_error (hcrash hodd)] at hending
            cases hending
    · intro hodd
      have hlayered := layerOptions_layered (a := a) hodd
      generalize layerOptions c a.settings = layered at hlayered hoptions
      cases hlayered with
      | mapping _ => exact .inr ⟨_, _, hrefused hoptions⟩
      | flags _ _ => exact .inr ⟨_, _, hrefused hoptions⟩
      | granted _ _ _ => exact .inl ⟨_, _, hoptions⟩

end

/-- **A configuration mapping crashes a run exactly by a key that is no text.** -/
theorem config_contained (files : FileTree) (s : Surroundings) :
    (∀ p c, loadConfig files s.directory p s.readers = .ok c → AcceptedMapping p c) ∧
      ∀ line a s₁ choice c, Reaches files s line a s₁ →
        chooseConfig s₁.journal.files s a = .ok (some choice) →
        loadConfig (s₁.note [.configuration choice.name]).journal.files s.directory choice.path
          s.readers = .ok c →
        AcceptedRun files s line a s₁ c :=
  ⟨fun _ _ h => acceptedMapping h, fun _ _ _ _ _ h hchoice hload => acceptedRun h hchoice hload⟩

/-- A document, and a YAML file with a number under a key. -/
def keyFiles (key : String) : FileTree :=
  .directory [("in", .file (Text.utf8Encode "\x7b\x22kind\x22: \x22code\x22\x7d".toList)),
    ("c.yaml", .file (Text.utf8Encode (key ++ ": 3\n").toList))]

/-- A command line for them. -/
def keyArguments : Arguments := { input := "in", config? := some (.text "c.yaml") }

/-- The theorem at a key that spells a field, where the number is refused. -/
theorem config_contained_number :
    let files := keyFiles "line-break-placeholder"
    let line := ["in", "--config", "c.yaml"]
    let choice : ConfigChoice := { name := "c.yaml", path := .ofString "c.yaml" }
    ∃ s₁ c, Reaches files rootAround line keyArguments s₁ ∧
      chooseConfig s₁.journal.files rootAround keyArguments = .ok (some choice) ∧
      loadConfig (s₁.note [.configuration choice.name]).journal.files [] choice.path
        rootAround.readers = .ok c ∧
      oddKey? c = none ∧ AcceptedMapping choice.path c ∧
      AcceptedRun files rootAround line keyArguments s₁ c ∧
      ((run files rootAround line).ending matches .exit 2) = true := by
  intro files line choice
  have hread : readArguments line = .ok keyArguments := by decide +kernel
  have hsession : (((Session.start files rootAround).configure keyArguments).toOption.any fun r =>
      ((chooseConfig r.2.journal.files rootAround keyArguments).toOption.any fun choice? =>
          choice? == some choice) &&
        (loadConfig (r.2.note [.configuration choice.name]).journal.files []
          choice.path rootAround.readers).toOption.any fun c => (oddKey? c).isNone) = true := by
    decide +kernel
  obtain ⟨⟨⟨⟩, s₁⟩, hconfigured, hsession⟩ := exists_ok_of_any hsession
  obtain ⟨hchosen, hloaded⟩ := (Bool.and_eq_true _ _).mp hsession
  obtain ⟨choice?, hchoice, hsome⟩ := exists_ok_of_any hchosen
  cases eq_of_beq hsome
  obtain ⟨c, hload, hodd⟩ := exists_ok_of_any hloaded
  exact ⟨s₁, c, ⟨hread, hconfigured⟩, hchoice, hload, Option.isNone_iff_eq_none.1 hodd,
    (config_contained _ rootAround).1 _ c hload,
    (config_contained files rootAround).2 line keyArguments s₁ _ c ⟨hread, hconfigured⟩ hchoice
      hload,
    by decide +kernel⟩

/-- A key that is a number is a fault that is not foreseen, though it spells no field. -/
theorem integerKey_crashes :
    (∃ c, loadConfig (keyFiles "1") [] (.ofString "c.yaml") rootAround.readers = .ok c ∧
      (Options.ofMapping c matches .error (.keyNotText (.int 1))) = true) ∧
      ((run (keyFiles "1") rootAround ["in", "--config", "c.yaml"]).ending matches
        .crash (.layers (.option (.keyNotText (.int 1))))) = true := by
  refine ⟨?_, by decide +kernel⟩
  exact exists_ok_of_any (by decide +kernel)

/-! ### Input files -/

/-- What a run comes to with the options put together, in a session, if its input is a file. -/
structure ContainedRun (files : FileTree) (s : Surroundings) (line : List String) (a : Arguments)
    (s₂ : Session) : Prop where
  /-- The document is loaded, or the run tells why not, exactly if no fault escapes. -/
  contained : ((∃ root s₃, s₂.document a = .ok (root, s₃)) ∨
      ∃ fault, (loadPath s₂.journal.files s.directory (.ofString a.input)).1 = .error fault ∧
        (run files s line).Tells validationCode fault.message) ↔
    ∀ fault, ¬Escape s₂.journal.files s.directory (.ofString a.input) Text.digitLimit? fault
  /-- A fault that escapes crashes it. -/
  crashes : ∀ fault,
    Escape s₂.journal.files s.directory (.ofString a.input) Text.digitLimit? fault →
    (run files s line).ending = .crash (.load fault)

theorem Session.document_eq (s : Session) (a : Arguments) :
    s.document a =
      match (s.found a.input).1 with
      | .ok root => .ok (root, s.note ((s.found a.input).2.map .load))
      | .error fault =>
        .error (if fault.isForeseen then
            (s.note ((s.found a.input).2.map .load)).refuse validationCode fault.message
          else (s.note ((s.found a.input).2.map .load)).crash (.load fault)) := rfl

theorem containedRun {files : FileTree} {s : Surroundings} {line : List String} {a : Arguments}
    {s₁ s₂ : Session} {o : Options} (h : Reaches files s line a s₁)
    (hoptions : s₁.options a = .ok (o, s₂)) (hinput : a.input ≠ streamName) :
    ContainedRun files s line a s₂ := by
  have hkeeps := h.keeps.of_options hoptions
  have hfound : s₂.found a.input =
      loadPath s₂.journal.files s.directory (.ofString a.input) := by
    rw [Session.found, loadInput, if_neg (by simpa using hinput), hkeeps.around]
    rfl
  have hdocument := s₂.document_eq a
  rw [hfound] at hdocument
  -- The log may stand in the way of the input, so the files are those of the session.
  have hcrash : ∀ {fault},
      Escape s₂.journal.files s.directory (.ofString a.input) Text.digitLimit? fault →
      (∀ root s₃, s₂.document a ≠ .ok (root, s₃)) ∧
        (run files s line).ending = .crash (.load fault) := by
    intro fault hescape
    simp only [hescape.loadPath_eq, hescape.not_isForeseen, Bool.false_eq_true, if_false]
      at hdocument
    rw [h.run_of_document_error hoptions hdocument, hdocument]
    exact ⟨fun _ _ => by simp, rfl⟩
  constructor
  case contained =>
    constructor
    · rintro (⟨root, s₃, hok⟩ | ⟨fault, -, htells⟩) fault' hescape
      · exact (hcrash hescape).1 root s₃ hok
      · cases htells.ending.symm.trans (hcrash hescape).2
    · intro hnone
      rcases (loadContained s₂.journal.files s.directory (.ofString a.input)
        Text.digitLimit?).contained.2 hnone with ⟨root, hroot⟩ | ⟨fault, hfault, hforeseen, -⟩
      · simp only [hroot] at hdocument
        exact .inl ⟨_, _, hdocument⟩
      · simp only [hfault, hforeseen, if_true] at hdocument
        refine .inr ⟨fault, hfault, ?_⟩
        rw [h.run_of_document_error hoptions hdocument]
        exact (hkeeps.note _).tells _ _
  case crashes => exact fun fault hescape => (hcrash hescape).2

/-- **An input file crashes a run exactly by the faults that escape.**  The library gives a tree or
refuses the file at one of four stages, unless a fault escapes; and what can escape does so. -/
theorem input_contained (files : FileTree) (s : Surroundings) :
    (∀ source p limit?, Source.file? source = some p →
      LoadContained files s.directory p limit? (load files s.directory source limit?).1) ∧
      ∀ line a s₁ o s₂, Reaches files s line a s₁ → s₁.options a = .ok (o, s₂) →
        a.input ≠ streamName → ContainedRun files s line a s₂ := by
  refine ⟨fun source p limit? hfile => ?_,
    fun _ _ _ _ _ h hoptions hinput => containedRun h hoptions hinput⟩
  rw [load_file hfile]
  exact loadContained files s.directory p limit?

/-- A file that may hold a document. -/
def byteFiles (bytes : List UInt8) : FileTree := .directory [("in", .file bytes)]

/-- The theorem at a file with an open brace and nothing more, which is refused. -/
theorem input_contained_brace :
    let files := byteFiles (Text.utf8Encode ['\x7b'])
    let a : Arguments := { input := "in" }
    LoadContained files [] (.ofString "in") Text.digitLimit?
        (load files [] (.path (.ofString "in"))).1 ∧
      (∃ s₁ s₂, Reaches files rootAround ["in"] a s₁ ∧ ContainedRun files rootAround ["in"] a s₂) ∧
      ((run files rootAround ["in"]).ending matches .exit 2) = true := by
  intro files a
  have hread : readArguments ["in"] = .ok a := by decide +kernel
  have hsession : (((Session.start files rootAround).configure a).toOption.any fun r =>
      (r.2.options a).toOption.any fun _ => true) = true := by decide +kernel
  obtain ⟨⟨⟨⟩, s₁⟩, hconfigured, hoptions⟩ := exists_ok_of_any hsession
  obtain ⟨⟨o, s₂⟩, hoptions, -⟩ := exists_ok_of_any hoptions
  exact ⟨(input_contained files rootAround).1 _ _ Text.digitLimit? rfl,
    ⟨s₁, s₂, ⟨hread, hconfigured⟩, (input_contained files rootAround).2 ["in"] a s₁ o s₂
      ⟨hread, hconfigured⟩ hoptions (by decide)⟩, by decide +kernel⟩

/-- A byte that no UTF-8 has escapes from loading, and it crashes a run. -/
theorem strayByte_crashes :
    ((load (byteFiles [0xff]) [] (.path (.ofString "in"))).1 matches .error (.notUtf8 _)) = true ∧
      (LoadFault.notUtf8 (.ofString "in")).isForeseen = false ∧
      ((run (byteFiles [0xff]) rootAround ["in"]).ending matches .crash (.load (.notUtf8 _))) =
        true := by
  decide +kernel

end ForumMarkup
