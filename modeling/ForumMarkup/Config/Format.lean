import ForumMarkup.Config.Toml.Reader
import ForumMarkup.Config.Yaml.Reader
import ForumMarkup.Json.Reader
import ForumMarkup.Text.Case
import ForumMarkup.Text.Digit
import ForumMarkup.Text.Encoding
/-
**Formats of configuration files.**

A configuration file is TOML, YAML or JSON; the ending of its name says which, in letters of either
case.  TOML is UTF-8, YAML and JSON may come in other encodings.  An empty YAML file, and one with
nothing but a value that counts as absent, gives an empty mapping.  In every format a decimal
integer must not have too many digits.

Main definitions:

* `ForumMarkup.ConfigFormat`, `ForumMarkup.ConfigFormat.ofSuffix?` — the formats, and the one of an
  ending;
* `ForumMarkup.ContentFault` — the reasons why contents cannot be read;
* `ForumMarkup.ConfigReaders` — the readers of the formats, and those of this library;
* `ForumMarkup.ConfigFormat.read` — the setting that contents give.
-/

set_option autoImplicit false

namespace ForumMarkup

/-- The formats of configuration files. -/
inductive ConfigFormat
  | toml
  | yaml
  | json
deriving DecidableEq, Repr

/-- The format of an ending with its point. -/
def ConfigFormat.ofSuffix? (suffix : String) : Option ConfigFormat :=
  match Text.lower suffix with
  | ".toml" => some .toml
  | ".yaml" => some .yaml
  | ".yml" => some .yaml
  | ".json" => some .json
  | _ => none

/-- The reasons why contents cannot be read. -/
inductive ContentFault
  /-- The bytes do not encode a text. -/
  | encoding
  | notToml (fault : Toml.Fault)
  | notYaml (fault : Yaml.Fault)
  | notJson (failure : Json.Failure)
deriving DecidableEq, Repr

/-- Whether a fault is foreseen. -/
def ContentFault.isForeseen : ContentFault → Bool
  | .notYaml fault => fault.isForeseen
  | _ => true

/-- The sentence shown to the user. -/
def ContentFault.message : ContentFault → String
  | .encoding => "'utf-8' codec can't decode the contents"
  | .notToml _ => "the contents are not TOML"
  | .notYaml _ => "the contents are not YAML"
  | .notJson failure => failure.message

/-- The entries of a TOML file. -/
def readToml (bytes : List UInt8) : Except ContentFault Toml.Table :=
  match Text.utf8Decode? bytes with
  | none => .error .encoding
  | some cs =>
    (Toml.read cs).mapError .notToml

/-- The setting of a YAML file, as this library reads it.  A run may have another reader. -/
def readYaml (bytes : List UInt8) : Except ContentFault Setting :=
  (Yaml.read bytes).mapError .notYaml

/-- The setting of a JSON file. -/
def readJson (bytes : List UInt8) : Except ContentFault Setting :=
  match Text.decodeDetected? bytes with
  | none => .error .encoding
  | some cs =>
    match Json.whole (some Text.maxIntegerDigits) cs with
    | .error failure => .error (.notJson failure)
    | .ok v => .ok (.ofValue v)

/-- The readers of the formats: what contents are, or why they cannot be read. -/
structure ConfigReaders where
  toml : List UInt8 → Except ContentFault Toml.Table
  yaml : List UInt8 → Except ContentFault Setting
  json : List UInt8 → Except ContentFault Setting

/-- The readers of this library. -/
def ConfigReaders.standard : ConfigReaders :=
  { toml := readToml, yaml := readYaml, json := readJson }

/-- The setting that contents give.  A YAML file whose value counts as absent is an empty
mapping. -/
def ConfigFormat.read (format : ConfigFormat) (bytes : List UInt8)
    (readers : ConfigReaders := .standard) : Except ContentFault Setting :=
  match format with
  | .toml => (readers.toml bytes).map .mapping
  | .yaml => (readers.yaml bytes).map fun s => if s.truthy then s else .mapping []
  | .json => readers.json bytes

end ForumMarkup
