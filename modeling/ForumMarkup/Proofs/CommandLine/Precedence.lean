import ForumMarkup.CommandLine.Layering
import ForumMarkup.Proofs.Options
/-
**Which layer wins.**

The configuration file of a run is the one that the command line names, or else, unless such files
are turned off, the one that the variable names, or else one that is found.  Each field of the
options has the setting of its flag, or else that of its last key in the mapping of this file, or
else its default.  The mapping is checked before flags are put over it, so a setting of a wrong type
is refused there even where a flag stands above it.

Main definitions:

* `ForumMarkup.Consults` — the configuration file that a run consults;
* `ForumMarkup.HasMapping` — the mapping of that file, which is empty if there is none;
* `ForumMarkup.Arguments.flagSetting?` — the setting of a field's flag;
* `ForumMarkup.Precedence` — **the options of a run, layer by layer**.

Main results:

* `ForumMarkup.chooseConfig_iff` — the file that is chosen is the one that is consulted;
* `ForumMarkup.runOptions_precedence` — **the options of a run**.
-/

set_option autoImplicit false

namespace ForumMarkup

/-! ### Specification -/

/-- A command line names a configuration file. -/
def Arguments.Names (a : Arguments) (name : String) : Prop :=
  a.config? = some (.text name) ∧ name ≠ ""

/-- The configuration file that a run consults. -/
inductive Consults (files : FileTree) (s : Surroundings) (a : Arguments) :
    Option ConfigChoice → Prop
  /-- The command line names it. -/
  | named {name : String} (hname : a.Names name) :
      Consults files s a (some { name := name, path := .ofString name })
  /-- Such files are turned off. -/
  | off (hnamed : ∀ name, ¬ a.Names name) (hoff : a.noConfig = true) : Consults files s a none
  /-- The variable names it. -/
  | variable {name : String} (hnamed : ∀ name, ¬ a.Names name) (hoff : a.noConfig = false)
      (hvariable : s.configVariable? = some name) (hname : name ≠ "") :
      Consults files s a (some { name := name, path := .ofString name })
  /-- The variable is there and empty. -/
  | emptyVariable (hnamed : ∀ name, ¬ a.Names name) (hoff : a.noConfig = false)
      (hvariable : s.configVariable? = some "") : Consults files s a none
  /-- It is found, if there is one to find. -/
  | found {p? : Option Path} (hnamed : ∀ name, ¬ a.Names name) (hoff : a.noConfig = false)
      (hvariable : s.configVariable? = none)
      (hp : discover files s.directory s.home none = .ok p?) :
      Consults files s a (p?.map ConfigChoice.ofPath)

/-- The mapping of a configuration file, which is empty if there is none. -/
inductive HasMapping (files : FileTree) (s : Surroundings) :
    Option ConfigChoice → ConfigEntries → Prop
  | none : HasMapping files s none []
  | file {choice : ConfigChoice} {c : ConfigEntries}
      (h : loadConfig files s.directory choice.path s.readers = .ok c) :
      HasMapping files s (some choice) c

/-- The setting that a command line gives a field with its flag. -/
def Arguments.flagSetting? (a : Arguments) : OptionField → Option Setting
  | .footnoteTitle => a.footnoteTitle?.map FlagValue.setting
  | .codeLanguage => a.codeLanguage?.map Setting.bool
  | .lineBreak => a.lineBreak?.map FlagValue.setting

/-- The options of a run whose configuration file has the mapping `c`. -/
structure Precedence (files : FileTree) (s : Surroundings) (a : Arguments) (c : ConfigEntries) :
    Prop where
  /-- There are options unless the mapping or the flags have a setting of a wrong type; a field has
  the setting of its flag, or else the last one of the mapping, or else its default. -/
  granted : ∀ o, runOptions files s a = .ok o ↔
    firstMisfit? (lastSetting? c) = none ∧ firstMisfit? a.flagSetting? = none ∧
      ∀ field, o.setting field =
        ((a.flagSetting? field).or (lastSetting? c field)).getD (({} : Options).setting field)
  /-- The first setting of a wrong type in the mapping is refused, even if there is a flag for its
  field, and after the mapping, the first one of the flags. -/
  refused : ∀ fault, runOptions files s a = .error fault ↔
    ∃ field v, fault = .option (field.refusal v) ∧
      (firstMisfit? (lastSetting? c) = some (field, v) ∨
        firstMisfit? (lastSetting? c) = none ∧ firstMisfit? a.flagSetting? = some (field, v))
  /-- A flag has a setting of a wrong type only where two hyphens are attached to it. -/
  hyphens : ∀ field v, firstMisfit? a.flagSetting? = some (field, v) → v = .list []
  /-- Other keys are without influence. -/
  others : runOptions files s a =
    (layerOptions (c.filter fun e => e.1.isOption) a.settings).mapError .option

/-! ### The file -/

theorem namedBy_eq_some {a : Arguments} {choice : ConfigChoice} :
    (a.config?.bind FlagValue.given?).bind ConfigChoice.ofName? = some choice ↔
      ∃ name, a.Names name ∧ choice = { name := name, path := .ofString name } := by
  have hempty : ∀ name : String, name.isEmpty = true ↔ name = "" := fun name => by simp
  constructor
  · intro h
    obtain ⟨name, hgiven, hchoice⟩ := Option.bind_eq_some_iff.1 h
    obtain ⟨v, hconfig, hv⟩ := Option.bind_eq_some_iff.1 hgiven
    cases v with
    | empty => cases hv
    | text s =>
        rw [FlagValue.given?, Option.ite_none_left_eq_some, hempty, Option.some.injEq] at hv
        obtain ⟨hs, rfl⟩ := hv
        rw [ConfigChoice.ofName?, Option.ite_none_left_eq_some, Option.some.injEq] at hchoice
        exact ⟨s, ⟨hconfig, hs⟩, hchoice.2.symm⟩
  · rintro ⟨name, ⟨hconfig, hname⟩, rfl⟩
    simp [hconfig, FlagValue.given?, ConfigChoice.ofName?, hname]

theorem namedBy_eq_none {a : Arguments} :
    (a.config?.bind FlagValue.given?).bind ConfigChoice.ofName? = none ↔
      ∀ name, ¬ a.Names name := by
  constructor
  · intro hnone name hname
    rw [namedBy_eq_some.2 ⟨name, hname, rfl⟩] at hnone
    cases hnone
  · intro hnamed
    refine Option.eq_none_iff_forall_ne_some.2 fun choice hchoice => ?_
    obtain ⟨name, hname, -⟩ := namedBy_eq_some.1 hchoice
    exact hnamed name hname

section

variable {files : FileTree} {s : Surroundings} {a : Arguments}

/-- **The configuration file that is chosen is the one that a run consults.** -/
theorem chooseConfig_iff {choice? : Option ConfigChoice} :
    chooseConfig files s a = .ok choice? ↔ Consults files s a choice? := by
  constructor
  · intro h
    rw [chooseConfig] at h
    cases hnamed : (a.config?.bind FlagValue.given?).bind ConfigChoice.ofName? with
    | some choice =>
        rw [hnamed] at h
        cases h
        obtain ⟨name, hname, rfl⟩ := namedBy_eq_some.1 hnamed
        exact .named hname
    | none =>
        rw [hnamed] at h
        replace hnamed := namedBy_eq_none.1 hnamed
        simp only [chooseUnnamed] at h
        cases hoff : a.noConfig with
        | true =>
            rw [hoff] at h
            cases h
            exact .off hnamed hoff
        | false =>
            rw [hoff] at h
            cases hvariable : s.configVariable? with
            | some name =>
                rw [hvariable] at h
                by_cases hname : name = ""
                · subst hname
                  cases h
                  exact .emptyVariable hnamed hoff hvariable
                · have hchoice : choice? = some { name := name, path := .ofString name } := by
                    simpa [ConfigChoice.ofName?, hname] using h.symm
                  rw [hchoice]
                  exact .variable hnamed hoff hvariable hname
            | none =>
                rw [hvariable] at h
                cases hp : discover files s.directory s.home none with
                | error fault =>
                    rw [hp] at h
                    cases h
                | ok p? =>
                    rw [hp] at h
                    cases h
                    exact .found hnamed hoff hvariable hp
  · intro h
    cases h with
    | named hname => rw [chooseConfig, namedBy_eq_some.2 ⟨_, hname, rfl⟩]
    | off hnamed hoff => simp [chooseConfig, namedBy_eq_none.2 hnamed, chooseUnnamed, hoff]
    | «variable» hnamed hoff hvariable hname =>
        simp [chooseConfig, namedBy_eq_none.2 hnamed, chooseUnnamed, hoff, hvariable,
          ConfigChoice.ofName?, hname]
    | emptyVariable hnamed hoff hvariable =>
        simp [chooseConfig, namedBy_eq_none.2 hnamed, chooseUnnamed, hoff, hvariable,
          ConfigChoice.ofName?]
    | found hnamed hoff hvariable hp =>
        simp [chooseConfig, namedBy_eq_none.2 hnamed, chooseUnnamed, hoff, hvariable, hp,
          Except.map]

/-! ### The layers -/

theorem lastGiven?_settings (a : Arguments) (field : OptionField) :
    Options.lastGiven? field a.settings = a.flagSetting? field := by
  rcases a with ⟨_, _, _, _, title?, language?, lineBreak?, _, _, _⟩
  cases title? <;> cases language? <;> cases lineBreak? <;> cases field <;> rfl

/-- A flag has a setting of a wrong type only where it has no text. -/
theorem eq_nil_of_flagMisfit {field : OptionField} {v : Setting}
    (h : firstMisfit? a.flagSetting? = some (field, v)) : v = .list [] := by
  have htext : ∀ {w : FlagValue}, w.setting = v → field.isSwitch = false →
      field.takes v = false → v = .list [] := by
    rintro w rfl hswitch htakes
    cases w with
    | text s => simp [FlagValue.setting, OptionField.takes, hswitch] at htakes
    | empty => rfl
  obtain ⟨hgiven, htakes⟩ := firstMisfit?_eq_some h
  cases field with
  | footnoteTitle =>
      obtain ⟨w, -, hw⟩ := Option.map_eq_some_iff.1 hgiven
      exact htext hw rfl htakes
  | codeLanguage =>
      obtain ⟨b, -, rfl⟩ := Option.map_eq_some_iff.1 hgiven
      cases htakes
  | lineBreak =>
      obtain ⟨w, -, hw⟩ := Option.map_eq_some_iff.1 hgiven
      exact htext hw rfl htakes

/-- Flags are put over options.  Without flags the options are not even checked again. -/
theorem layered_flags (o : Options) (a : Arguments) :
    Layered o.setting a.flagSetting?
      (if a.settings.isEmpty then .ok o else o.replace a.settings) := by
  have hreplace := layered_replace o a.settings
  simp only [lastGiven?_settings] at hreplace
  split
  · next hempty =>
      have hnone : ∀ field, a.flagSetting? field = none := fun field => by
        rw [← lastGiven?_settings, List.isEmpty_iff.1 hempty]
        rfl
      exact .granted (firstMisfit?_eq_none.2 (by simp [hnone])) (by simp [hnone])
  · exact hreplace

/-- What comes of a mapping with flags on top. -/
inductive LayeredTwice (c : ConfigEntries) (a : Arguments) : Except OptionFault Options → Prop
  | mapping {field : OptionField} {v : Setting}
      (h : firstMisfit? (lastSetting? c) = some (field, v)) :
      LayeredTwice c a (.error (field.refusal v))
  | flags {field : OptionField} {v : Setting} (hc : firstMisfit? (lastSetting? c) = none)
      (h : firstMisfit? a.flagSetting? = some (field, v)) :
      LayeredTwice c a (.error (field.refusal v))
  | granted {o : Options} (hc : firstMisfit? (lastSetting? c) = none)
      (h : firstMisfit? a.flagSetting? = none)
      (ho : ∀ field, o.setting field =
        ((a.flagSetting? field).or (lastSetting? c field)).getD (({} : Options).setting field)) :
      LayeredTwice c a (.ok o)

/-- A mapping with texts for keys is layered over the defaults, and the flags over both. -/
theorem layerOptions_layered {c : ConfigEntries} (hkeys : oddKey? c = none) :
    LayeredTwice c a (layerOptions c a.settings) := by
  -- The options of the mapping are checked alone, so its faults come before those of the flags.
  have hmapping := layered_ofMapping hkeys
  rw [layerOptions]
  generalize Options.ofMapping c = options at hmapping ⊢
  cases hmapping with
  | refused hc => exact .mapping hc
  | @granted o hc ho =>
      have hflags := layered_flags o a
      simp only [bind, Except.bind, pure, Except.pure]
      generalize (if a.settings.isEmpty then Except.ok o else o.replace a.settings) = layered
        at hflags ⊢
      cases hflags with
      | refused h => exact .flags hc h
      | granted h ho' =>
          refine .granted hc h fun field => ?_
          rw [ho' field, ho field]
          cases a.flagSetting? field <;> rfl

theorem layerOptions_filter {c : ConfigEntries} (hkeys : oddKey? c = none)
    (flags : List (OptionField × Setting)) :
    layerOptions (c.filter fun e => e.1.isOption) flags = layerOptions c flags := by
  rw [layerOptions, layerOptions, ofMapping_filter hkeys]

theorem mapError_eq_ok {ε ε' α : Type} {x : Except ε α} {f : ε → ε'} {a : α} :
    x.mapError f = .ok a ↔ x = .ok a := by
  cases x with
  | error e => constructor <;> exact fun h => nomatch h
  | ok b => exact ⟨fun h => congrArg _ (Except.ok.inj h), fun h => congrArg _ (Except.ok.inj h)⟩

theorem mapError_eq_error {ε ε' α : Type} {x : Except ε α} {f : ε → ε'} {e' : ε'} :
    x.mapError f = .error e' ↔ ∃ e, x = .error e ∧ f e = e' := by
  cases x with
  | error e =>
      constructor
      · exact fun h => ⟨e, rfl, Except.error.inj h⟩
      · rintro ⟨_, ⟨⟩, rfl⟩
        rfl
  | ok b =>
      constructor
      · exact fun h => nomatch h
      · exact fun ⟨_, h, _⟩ => nomatch h

theorem runOptions_eq {choice? : Option ConfigChoice} {c : ConfigEntries}
    (hchoice : chooseConfig files s a = .ok choice?) (hmapping : HasMapping files s choice? c) :
    runOptions files s a = (layerOptions c a.settings).mapError .option := by
  rw [runOptions, hchoice]
  cases hmapping with
  | none => rfl
  | @file choice c h =>
      change optionsOfChoice files s a (some choice) = _
      rw [optionsOfChoice]
      simp only [h]
      rfl

/-- **The options of a run, layer by layer.**  The configuration file that is chosen is the one that
the command line names, or else, unless such files are turned off, the one that the variable names,
or else the one that is found; if its mapping has texts for keys, each field has the setting of its
flag, or else the last one of the mapping, or else its default. -/
theorem runOptions_precedence (files : FileTree) (s : Surroundings) (a : Arguments) :
    (∀ choice?, chooseConfig files s a = .ok choice? ↔ Consults files s a choice?) ∧
      ∀ choice? c, Consults files s a choice? → HasMapping files s choice? c →
        (∀ e ∈ c, ∃ key, e.1 = .text key) → Precedence files s a c := by
  refine ⟨fun _ => chooseConfig_iff, fun choice? c hconsults hmapping hkeys => ?_⟩
  replace hkeys := oddKey?_eq_none.2 hkeys
  have hrun := runOptions_eq (chooseConfig_iff.2 hconsults) hmapping
  have hlayered := layerOptions_layered (a := a) hkeys
  constructor
  case granted =>
    intro o
    rw [hrun, mapError_eq_ok]
    generalize layerOptions c a.settings = layered at hlayered
    cases hlayered with
    | mapping h => simp [h]
    | flags hc h => simp [h]
    | @granted o' hc h ho =>
        simp only [Except.ok.injEq, hc, h, true_and]
        constructor
        · rintro rfl
          exact ho
        · exact fun ho' => Options.ext_setting fun field => (ho field).trans (ho' field).symm
  case refused =>
    intro fault
    rw [hrun, mapError_eq_error]
    generalize layerOptions c a.settings = layered at hlayered
    cases hlayered with
    | mapping h => simp [h, eq_comm]
    | flags hc h => simp [hc, h, eq_comm]
    | granted hc h ho => simp [hc, h]
  case hyphens => exact fun _ _ => eq_nil_of_flagMisfit
  case others => rw [hrun, layerOptions_filter hkeys]

end

/-- A result that passes a check is there. -/
theorem exists_ok_of_any {ε α : Type} {x : Except ε α} {check : α → Bool}
    (h : x.toOption.any check = true) : ∃ a, x = .ok a ∧ check a = true := by
  cases x with
  | error e => cases h
  | ok a => exact ⟨a, rfl, h⟩

/-- A directory with a configuration file in which one field stands twice and another key once. -/
def twiceFiles : FileTree :=
  .directory [("c.json", .file (Text.utf8Encode
    ("\x7b\x22line-break-placeholder\x22: \x22~\x22, " ++
      "\x22line_break_placeholder\x22: \x22\x22, \x22wrap\x22: 80\x7d").toList))]

/-- A command line that names it, with a flag whose text is empty. -/
def twiceArguments : Arguments :=
  { input := "in", config? := some (.text "c.json"), noConfig := true
    footnoteTitle? := some (.text "") }

/-- The law at this command line. -/
theorem runOptions_precedence_twice :
    let s : Surroundings := { directory := [], home := [] }
    let choice : ConfigChoice := { name := "c.json", path := .ofString "c.json" }
    Consults twiceFiles s twiceArguments (some choice) ∧
      (∃ c, c.length = 3 ∧ HasMapping twiceFiles s (some choice) c ∧
        (∀ e ∈ c, ∃ key, e.1 = .text key) ∧ Precedence twiceFiles s twiceArguments c) ∧
      (runOptions twiceFiles s twiceArguments).toOption =
        some { footnoteTitle := "", codeLanguage := false, lineBreak := "" } := by
  intro s choice
  have hconsults : Consults twiceFiles s twiceArguments (some choice) :=
    .named ⟨rfl, by decide⟩
  have hread : ((loadConfig twiceFiles s.directory choice.path s.readers).toOption.any fun c =>
      c.length == 3 && (oddKey? c).isNone) = true := by decide +kernel
  obtain ⟨c, hload, hcheck⟩ := exists_ok_of_any hread
  obtain ⟨hlength, hodd⟩ := (Bool.and_eq_true _ _).mp hcheck
  have hmapping : HasMapping twiceFiles s (some choice) c := .file hload
  have hkeys := oddKey?_eq_none.1 (Option.isNone_iff_eq_none.1 hodd)
  exact ⟨hconsults, ⟨c, eq_of_beq hlength, hmapping, hkeys,
    (runOptions_precedence twiceFiles s twiceArguments).2 _ c hconsults hmapping hkeys⟩,
    by decide +kernel⟩

/-- Two hyphens attached to a flag leave it with a setting that no text field takes, and there are
no options although no mapping has a setting of a wrong type. -/
theorem runOptions_attachedHyphens :
    let files : FileTree := .directory []
    let s : Surroundings := { directory := [], home := [] }
    let a : Arguments := { input := "in", footnoteTitle? := some .empty }
    (readArguments ["in", "--footnote-section-title=--"]).toOption = some a ∧
      Consults files s a none ∧ HasMapping files s none [] ∧
      firstMisfit? (lastSetting? []) = none ∧
      runOptions files s a = .error (.option (.notText .footnoteTitle (.list []))) := by
  intro files s a
  have hdiscover : (discover files s.directory s.home none).toOption.any Option.isNone = true := by
    decide +kernel
  obtain ⟨p?, hp, hnone⟩ := exists_ok_of_any hdiscover
  rw [Option.isNone_iff_eq_none.1 hnone] at hp
  have hconsults : Consults files s a ((none : Option Path).map ConfigChoice.ofPath) :=
    .found (by rintro name ⟨⟨⟩, -⟩) rfl rfl hp
  refine ⟨by decide +kernel, hconsults, .none, rfl, ?_⟩
  rw [runOptions_eq (chooseConfig_iff.2 hconsults) .none]
  rfl

end ForumMarkup
