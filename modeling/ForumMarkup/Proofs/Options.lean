import ForumMarkup.CommandLine.Flag
import ForumMarkup.Options
/-
**Options from settings.**

Options are put together from settings over settings: for each field the setting that is given, or
else the one below it.  They are refused for the first setting of a wrong type, the texts looked at
before the switch.  A configuration mapping gives a field the setting of the last key that spells
its name, and all other keys count for nothing, unless one of them is no text.

Main definitions:

* `ForumMarkup.OptionField.takes`, `ForumMarkup.OptionField.refusal` — the settings of a field, and
  the fault of any other;
* `ForumMarkup.firstMisfit?` — the first setting of a wrong type;
* `ForumMarkup.Layered` — **options from settings over settings**;
* `ForumMarkup.Setting.spells`, `ForumMarkup.lastSetting?` — what a mapping gives a field;
* `ForumMarkup.oddKey?` — the first key of a mapping that is no text.

Main results:

* `ForumMarkup.layered_ofSettings`, `ForumMarkup.layered_replace` — checked settings, and settings
  put over options;
* `ForumMarkup.ofMapping_of_oddKey`, `ForumMarkup.layered_ofMapping` — the options of a mapping;
* `ForumMarkup.ofMapping_filter` — other keys count for nothing.
-/

set_option autoImplicit false

namespace ForumMarkup

/-! ### Settings of fields -/

/-- The fields in the order in which their settings are looked at. -/
def OptionField.checked : List OptionField := [.footnoteTitle, .lineBreak, .codeLanguage]

/-- Whether a setting is of the type of a field: that of a switch is true or false, that of any
other field a text. -/
def OptionField.takes (field : OptionField) : Setting → Bool
  | .text _ => !field.isSwitch
  | .bool _ => field.isSwitch
  | _ => false

/-- The fault of a setting of a wrong type. -/
def OptionField.refusal (field : OptionField) (v : Setting) : OptionFault :=
  if field.isSwitch then .notSwitch field v else .notText field v

/-- The first field that is given a setting of a wrong type, with that setting. -/
def firstMisfit? (given : OptionField → Option Setting) : Option (OptionField × Setting) :=
  OptionField.checked.findSome? fun field =>
    ((given field).filter fun v => !field.takes v).map (Prod.mk field)

/-- What comes of settings over others: they are refused for the first one of a wrong type, or each
field has its setting, or else the one below. -/
inductive Layered (below : OptionField → Setting) (given : OptionField → Option Setting) :
    Except OptionFault Options → Prop
  | refused {field : OptionField} {v : Setting} (h : firstMisfit? given = some (field, v)) :
      Layered below given (.error (field.refusal v))
  | granted {o : Options} (h : firstMisfit? given = none)
      (ho : ∀ field, o.setting field = (given field).getD (below field)) :
      Layered below given (.ok o)

theorem OptionField.takes_setting (field : OptionField) (o : Options) :
    field.takes (o.setting field) = true := by
  cases field <;> rfl

theorem OptionField.mem_checked (field : OptionField) : field ∈ checked := by
  cases field <;> decide

/-- Options are their settings. -/
theorem Options.ext_setting {o o' : Options} (h : ∀ field, o.setting field = o'.setting field) :
    o = o' := by
  cases o
  cases o'
  have htitle := Setting.text.inj (h .footnoteTitle)
  have hlanguage := Setting.bool.inj (h .codeLanguage)
  have hbreak := Setting.text.inj (h .lineBreak)
  simp_all

section

variable {below : OptionField → Setting} {given given' : OptionField → Option Setting}

/-- No setting is of a wrong type if each is of the type of its field. -/
theorem firstMisfit?_eq_none :
    firstMisfit? given = none ↔ ∀ field v, given field = some v → field.takes v = true := by
  rw [firstMisfit?, List.findSome?_eq_none_iff]
  constructor
  · intro h field v hv
    have hfield := h field field.mem_checked
    simpa [hv, Option.filter] using hfield
  · intro h field _
    cases hv : given field with
    | none => rfl
    | some v => simp [Option.filter, h field v hv]

theorem firstMisfit?_eq_some {field : OptionField} {v : Setting}
    (h : firstMisfit? given = some (field, v)) : given field = some v ∧ field.takes v = false := by
  obtain ⟨found, -, hfound⟩ := List.exists_of_findSome?_eq_some h
  obtain ⟨w, hw, heq⟩ := Option.map_eq_some_iff.1 hfound
  cases heq
  obtain ⟨hgiven, htakes⟩ := Option.filter_eq_some_iff.1 hw
  exact ⟨hgiven, by simpa using htakes⟩

/-- What fits already may as well be given. -/
theorem firstMisfit?_getD (h : ∀ field : OptionField, field.takes (below field) = true) :
    firstMisfit? (fun field => some ((given field).getD (below field))) = firstMisfit? given := by
  refine congrArg (OptionField.checked.findSome? ·) (funext fun field => ?_)
  cases hgiven : given field with
  | none => simp [hgiven, Option.filter, h field]
  | some v => simp [hgiven]

theorem Layered.unique {x y : Except OptionFault Options} (h : Layered below given x)
    (h' : Layered below given y) : x = y := by
  cases h with
  | refused h =>
      cases h' with
      | refused h' =>
          cases h.symm.trans h'
          rfl
      | granted h' ho' => cases h.symm.trans h'
  | granted h ho =>
      cases h' with
      | refused h' => cases h.symm.trans h'
      | granted h' ho' =>
          rw [Options.ext_setting fun field => (ho field).trans (ho' field).symm]

end

/-! ### Checking -/

theorem checkText_cases (field : OptionField) (hfield : field.isSwitch = false) (v : Setting) :
    (∃ s, v = .text s) ∨
      field.takes v = false ∧ Options.checkText field v = .error (field.refusal v) := by
  cases v with
  | text s => exact .inl ⟨s, rfl⟩
  | _ => exact .inr (by simp [OptionField.takes, Options.checkText, OptionField.refusal, hfield])

theorem checkSwitch_cases (field : OptionField) (hfield : field.isSwitch = true) (v : Setting) :
    (∃ b, v = .bool b) ∨
      field.takes v = false ∧ Options.checkSwitch field v = .error (field.refusal v) := by
  cases v with
  | bool b => exact .inl ⟨b, rfl⟩
  | _ => exact .inr (by simp [OptionField.takes, Options.checkSwitch, OptionField.refusal, hfield])

/-- Checked settings are refused for the first one of a wrong type. -/
theorem layered_ofSettings (below settings : OptionField → Setting) :
    Layered below (fun field => some (settings field)) (Options.ofSettings settings) := by
  have takes_title (s : String) : OptionField.footnoteTitle.takes (.text s) = true := rfl
  have takes_break (s : String) : OptionField.lineBreak.takes (.text s) = true := rfl
  rw [Options.ofSettings]
  rcases checkText_cases .footnoteTitle rfl (settings .footnoteTitle) with
    ⟨title, htitle⟩ | ⟨htakes, hcheck⟩
  rotate_left
  · rw [hcheck]
    exact .refused (by simp [firstMisfit?, OptionField.checked, Option.filter, htakes])
  rcases checkText_cases .lineBreak rfl (settings .lineBreak) with
    ⟨lineBreak, hbreak⟩ | ⟨htakes, hcheck⟩
  rotate_left
  · rw [htitle, hcheck]
    exact .refused (by
      simp [firstMisfit?, OptionField.checked, Option.filter, htitle, takes_title, htakes])
  rcases checkSwitch_cases .codeLanguage rfl (settings .codeLanguage) with
    ⟨language, hlanguage⟩ | ⟨htakes, hcheck⟩
  rotate_left
  · rw [htitle, hbreak, hcheck]
    exact .refused (by
      simp [firstMisfit?, OptionField.checked, Option.filter, htitle, takes_title, hbreak,
        takes_break, htakes])
  rw [htitle, hbreak, hlanguage]
  refine .granted (firstMisfit?_eq_none.2 ?_) ?_
  · rintro field v ⟨⟩
    cases field <;> simp [htitle, hbreak, hlanguage, OptionField.takes, OptionField.isSwitch]
  · intro field
    cases field <;> simp [htitle, hbreak, hlanguage, Options.setting]

/-- Settings are put over options. -/
theorem layered_replace (o : Options) (given : List (OptionField × Setting)) :
    Layered o.setting (fun field => Options.lastGiven? field given) (o.replace given) := by
  have hchecked := layered_ofSettings o.setting fun field =>
    (Options.lastGiven? field given).getD (o.setting field)
  have hmisfit := @firstMisfit?_getD o.setting (fun field => Options.lastGiven? field given)
    fun field => field.takes_setting o
  rw [Options.replace]
  generalize Options.ofSettings _ = checked at hchecked ⊢
  cases hchecked with
  | refused h => exact .refused (hmisfit ▸ h)
  | granted h ho => exact .granted (hmisfit ▸ h) ho

/-! ### Mappings -/

/-- Whether a key is the name of a field, with hyphens for low lines or without. -/
def Setting.spells (field : OptionField) : Setting → Bool
  | .text key => Options.fieldSpelling key == field.name
  | _ => false

/-- The setting that a mapping gives a field: that of the last key that spells its name. -/
def lastSetting? (c : List (Setting × Setting)) (field : OptionField) : Option Setting :=
  (c.filter fun e => e.1.spells field).getLast?.map Prod.snd

/-- Whether a key is a text. -/
def Setting.isText : Setting → Bool
  | .text _ => true
  | _ => false

/-- The first key of a mapping that is no text. -/
def oddKey? (c : List (Setting × Setting)) : Option Setting :=
  (c.find? fun e => !e.1.isText).map Prod.fst

/-- The field whose name a key spells. -/
def Setting.field? : Setting → Option OptionField
  | .text key => OptionField.ofName? (Options.fieldSpelling key)
  | _ => none

theorem OptionField.ofName?_eq_some {s : String} {field : OptionField} :
    ofName? s = some field ↔ s = field.name := by
  constructor
  · intro h
    have hname := List.find?_some h
    exact (eq_of_beq hname).symm
  · rintro rfl
    cases field <;> decide

theorem Setting.field?_eq_some {key : Setting} {field : OptionField} :
    key.field? = some field ↔ key.spells field = true := by
  cases key <;> simp [field?, spells, OptionField.ofName?_eq_some]

section

variable {c : List (Setting × Setting)}

theorem oddKey?_eq_none : oddKey? c = none ↔ ∀ e ∈ c, ∃ key, e.1 = .text key := by
  have htext : ∀ v : Setting, v.isText = true ↔ ∃ key, v = .text key := by
    intro v
    cases v <;> simp [Setting.isText]
  simp [oddKey?, List.find?_eq_none, htext]

/-- The settings of fields in a mapping whose keys are texts. -/
theorem configured_of_texts (h : oddKey? c = none) :
    Options.configured c =
      .ok (c.filterMap fun e => e.1.field?.map fun field => (field, e.2)) := by
  rw [oddKey?_eq_none] at h
  induction c with
  | nil => rfl
  | cons e c ih =>
      obtain ⟨key, v⟩ := e
      obtain ⟨⟨s, rfl⟩, hrest⟩ := List.forall_mem_cons.1 h
      rw [Options.configured, ih hrest, List.filterMap_cons, Setting.field?]
      cases OptionField.ofName? (Options.fieldSpelling s) <;> rfl

theorem configured_of_oddKey {key : Setting} (h : oddKey? c = some key) :
    Options.configured c = .error (.keyNotText key) := by
  induction c with
  | nil => cases h
  | cons e c ih =>
      obtain ⟨k, v⟩ := e
      cases k with
      | text s =>
          rw [Options.configured, ih (by simpa [oddKey?, Setting.isText] using h)]
          rfl
      | _ =>
          cases h
          rfl

/-- The last setting that is given to a field is that of the last key that spells its name. -/
theorem lastGiven?_filterMap (c : List (Setting × Setting)) (field : OptionField) :
    Options.lastGiven? field (c.filterMap fun e => e.1.field?.map fun f => (f, e.2)) =
      lastSetting? c field := by
  induction c with
  | nil => rfl
  | cons e c ih =>
      rw [List.filterMap_cons, lastSetting?, List.filter_cons]
      have hspells := @Setting.field?_eq_some e.1 field
      cases hfield : e.1.field? with
      | none =>
          rw [hfield] at hspells
          rw [if_neg (by simp [← hspells])]
          exact ih
      | some f =>
          rw [hfield, Option.some.injEq] at hspells
          simp only [Option.map_some, Options.lastGiven?, ih, lastSetting?]
          by_cases hf : f = field
          · rw [if_pos (hspells.1 hf), if_pos hf, List.getLast?_cons]
            cases (c.filter fun e => e.1.spells field).getLast? <;> rfl
          · rw [if_neg (mt hspells.2 hf), if_neg hf]
            cases (c.filter fun e => e.1.spells field).getLast? <;> rfl

/-- A mapping with a key that is no text has no options. -/
theorem ofMapping_of_oddKey {key : Setting} (h : oddKey? c = some key) :
    Options.ofMapping c = .error (.keyNotText key) := by
  rw [Options.ofMapping, configured_of_oddKey h]
  rfl

/-- The options of a mapping whose keys are texts. -/
theorem layered_ofMapping (h : oddKey? c = none) :
    Layered ({} : Options).setting (lastSetting? c) (Options.ofMapping c) := by
  have hreplace := layered_replace {} (c.filterMap fun e => e.1.field?.map fun f => (f, e.2))
  simp only [lastGiven?_filterMap] at hreplace
  rw [Options.ofMapping, configured_of_texts h]
  exact hreplace

/-- Whether a key spells the name of any field. -/
def Setting.isOption (key : Setting) : Bool := key.field?.isSome

theorem lastSetting?_filter (c : List (Setting × Setting)) :
    lastSetting? (c.filter fun e => e.1.isOption) = lastSetting? c := by
  funext field
  rw [lastSetting?, lastSetting?, List.filter_filter]
  congr 3
  funext e
  cases hspells : e.1.spells field with
  | false => rfl
  | true => simp [Setting.isOption, Setting.field?_eq_some.2 hspells]

/-- Other keys count for nothing. -/
theorem ofMapping_filter (h : oddKey? c = none) :
    Options.ofMapping (c.filter fun e => e.1.isOption) = Options.ofMapping c := by
  have hfilter : oddKey? (c.filter fun e => e.1.isOption) = none :=
    oddKey?_eq_none.2 fun e he => oddKey?_eq_none.1 h e (List.mem_filter.1 he).1
  have hoptions := layered_ofMapping hfilter
  rw [lastSetting?_filter] at hoptions
  exact hoptions.unique (layered_ofMapping h)

end

end ForumMarkup
