import ForumMarkup.Value.Setting
/-
**Options of the output.**

Three options shape the markup: the title over the footnotes, whether code blocks name their
language, and the text inside a hard line break.  Options are given by name as settings of any type,
so they are checked when they are put together: the two texts first, then the switch.

Main definitions:

* `ForumMarkup.Options` — the options, with their defaults;
* `ForumMarkup.OptionField` — the three fields, with their names and the names of their flags;
* `ForumMarkup.OptionFault` — the reasons for refusing settings;
* `ForumMarkup.Options.update`, `ForumMarkup.Options.adjust`, `ForumMarkup.Options.ofMapping` —
  options from named settings, from named settings among others, and from a configuration mapping.
-/

set_option autoImplicit false

namespace ForumMarkup

/-- The options of the output. -/
structure Options where
  footnoteTitle : String := "Footnotes"
  codeLanguage : Bool := false
  lineBreak : String := "_"
deriving DecidableEq, Repr, Inhabited

/-- The fields of the options. -/
inductive OptionField
  | footnoteTitle
  | codeLanguage
  | lineBreak
deriving DecidableEq, Repr

namespace OptionField

/-- The fields in the order in which they are shown. -/
def all : List OptionField := [.footnoteTitle, .codeLanguage, .lineBreak]

/-- The name of a field. -/
def name : OptionField → String
  | .footnoteTitle => "footnote_section_title"
  | .codeLanguage => "code_language_attribute"
  | .lineBreak => "line_break_placeholder"

/-- The field of a name. -/
def ofName? (s : String) : Option OptionField :=
  all.find? fun f => f.name == s

end OptionField

/-! ### Faults -/

/-- The reasons for refusing settings. -/
inductive OptionFault
  /-- A field that holds a text is given something else. -/
  | notText (field : OptionField) (found : Setting)
  /-- A field that holds a switch is given something else. -/
  | notSwitch (field : OptionField) (found : Setting)
  /-- There is no field of that name. -/
  | unknownName (name : String)
  /-- A key of a configuration mapping is no text. -/
  | keyNotText (key : Setting)
deriving Repr

/-- The sentence shown to the user. -/
def OptionFault.message : OptionFault → String
  | .notText field found => field.name ++ " must be a string, got " ++ found.typeName
  | .notSwitch field found => field.name ++ " must be a boolean, got " ++ found.typeName
  | .unknownName name => "unknown option " ++ name
  | .keyNotText key => "option names are texts, got " ++ key.typeName

namespace Options

/-! ### Checking -/

/-- The setting of a field. -/
def setting (o : Options) : OptionField → Setting
  | .footnoteTitle => .text o.footnoteTitle
  | .codeLanguage => .bool o.codeLanguage
  | .lineBreak => .text o.lineBreak

/-- A setting as the text of a field. -/
def checkText (field : OptionField) : Setting → Except OptionFault String
  | .text s => .ok s
  | found => .error (.notText field found)

/-- A setting as the switch of a field. -/
def checkSwitch (field : OptionField) : Setting → Except OptionFault Bool
  | .bool b => .ok b
  | found => .error (.notSwitch field found)

/-- The options with the given settings, the texts checked before the switch. -/
def ofSettings (settings : OptionField → Setting) : Except OptionFault Options := do
  let title ← checkText .footnoteTitle (settings .footnoteTitle)
  let lineBreak ← checkText .lineBreak (settings .lineBreak)
  let language ← checkSwitch .codeLanguage (settings .codeLanguage)
  return { footnoteTitle := title, codeLanguage := language, lineBreak := lineBreak }

/-- The last setting given for a field. -/
def lastGiven? (field : OptionField) : List (OptionField × Setting) → Option Setting
  | [] => none
  | (f, v) :: rest =>
    match lastGiven? field rest with
    | some w => some w
    | none => if f = field then some v else none

/-- The options with some fields given anew. -/
def replace (o : Options) (given : List (OptionField × Setting)) : Except OptionFault Options :=
  ofSettings fun field => (lastGiven? field given).getD (o.setting field)

/-! ### Named settings -/

/-- Named settings as settings of fields; every name has to be the name of a field. -/
def fieldsOf : List (String × Setting) → Except OptionFault (List (OptionField × Setting))
  | [] => .ok []
  | (name, v) :: rest =>
    match OptionField.ofName? name with
    | none => .error (.unknownName name)
    | some field => do return (field, v) :: (← fieldsOf rest)

/-- The options with named fields given anew. -/
def update (o : Options) (named : List (String × Setting)) : Except OptionFault Options := do
  o.replace (← fieldsOf named)

/-- The settings whose names are names of fields. -/
def recognised (named : List (String × Setting)) : List (OptionField × Setting) :=
  named.filterMap fun e => (OptionField.ofName? e.1).map fun field => (field, e.2)

/-- The options with named fields given anew; other names are passed over. -/
def adjust (o : Options) (named : List (String × Setting)) : Except OptionFault Options :=
  if named.isEmpty then .ok o else o.replace (recognised named)

/-! ### Configuration mappings -/

/-- A name in the spelling of fields: hyphens count as low lines. -/
def fieldSpelling (s : String) : String :=
  String.ofList (s.toList.map fun c => if c == '-' then '_' else c)

/-- The settings of fields in a configuration mapping, in the order of the mapping. -/
def configured : List (Setting × Setting) → Except OptionFault (List (OptionField × Setting))
  | [] => .ok []
  | (.text key, v) :: rest => do
    let others ← configured rest
    match OptionField.ofName? (fieldSpelling key) with
    | some field => return (field, v) :: others
    | none => return others
  | (key, _) :: _ => .error (.keyNotText key)

/-- The options that a configuration mapping gives.  Either spelling of a name counts, the last
setting of a field wins, and other names are passed over. -/
def ofMapping (entries : List (Setting × Setting)) : Except OptionFault Options := do
  replace {} (← configured entries)

/-! ### Showing -/

/-- The name of the type of options in messages. -/
def typeName : String := "BBCodeRendererOptions"

/-- The options on one line. -/
def shown (o : Options) : String :=
  typeName ++ "(footnote_section_title=" ++ Text.quoted o.footnoteTitle ++
    ", code_language_attribute=" ++ (if o.codeLanguage then "True" else "False") ++
    ", line_break_placeholder=" ++ Text.quoted o.lineBreak ++ ")"

end Options

end ForumMarkup
