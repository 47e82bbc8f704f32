import ForumMarkup.CommandLine.Arguments
import ForumMarkup.Config.Discovery
import ForumMarkup.Log.Record
/-
**Layers of options.**

The options of a run come in three layers: the defaults, the mapping of a configuration file above
them, and the flags on top.  The configuration file is the one that the command line names, or else
the one that an environment variable names, or else one that is found; the last two can be turned
off.

Main definitions:

* `ForumMarkup.Surroundings` — what a run finds around it;
* `ForumMarkup.ConfigChoice`, `ForumMarkup.chooseConfig` — the configuration file to use;
* `ForumMarkup.layerOptions` — the options of a mapping and of flags;
* `ForumMarkup.runOptions` — the options of a run, with the record of what was used.
-/

set_option autoImplicit false

namespace ForumMarkup

/-- What a run finds around it, apart from the files: the directory in use, the home directory, the
variable that names a configuration file, the text on the input stream, the time, and a package that
reads YAML, which may be any. -/
structure Surroundings where
  directory : List String
  home : List String
  configVariable? : Option String := none
  input : String := ""
  time : String := ""
  yaml : List UInt8 → Except ContentFault Setting := readYaml

/-- The readers of a run: those of this library, and for YAML the one that is there. -/
def Surroundings.readers (s : Surroundings) : ConfigReaders :=
  { ConfigReaders.standard with yaml := s.yaml }

/-- The name of the variable that names a configuration file. -/
def configVariableName : String := "ORG2BB_CONFIG"

/-- A configuration file to use, with its name as it was given or found. -/
structure ConfigChoice where
  name : String
  path : Path
deriving DecidableEq, Repr

namespace ConfigChoice

/-- The choice of a name that was given; an empty name is none. -/
def ofName? (name : String) : Option ConfigChoice :=
  if name.isEmpty then none else some { name := name, path := .ofString name }

/-- The choice of a path that was found. -/
def ofPath (p : Path) : ConfigChoice :=
  { name := p.shown, path := p }

end ConfigChoice

/-- The reasons why a run has no options. -/
inductive LayerFault
  | config (fault : ConfigFault)
  | option (fault : OptionFault)
deriving Repr

/-- The sentence shown to the user; faults that are not foreseen have none. -/
def LayerFault.message? : LayerFault → Option String
  | .config fault => fault.message?
  | .option (.keyNotText _) => none
  | .option fault => some fault.message

/-- The configuration file to use when the command line names none. -/
def chooseUnnamed (files : FileTree) (s : Surroundings) (noConfig : Bool) :
    Except ConfigFault (Option ConfigChoice) :=
  if noConfig then .ok none
  else match s.configVariable? with
    | some name => .ok (ConfigChoice.ofName? name)
    | none => (discover files s.directory s.home none).map fun p? => p?.map ConfigChoice.ofPath

/-- The configuration file to use. -/
def chooseConfig (files : FileTree) (s : Surroundings) (a : Arguments) :
    Except ConfigFault (Option ConfigChoice) :=
  match (a.config?.bind FlagValue.given?).bind ConfigChoice.ofName? with
  | some choice => .ok (some choice)
  | none => chooseUnnamed files s a.noConfig

/-- The options of a mapping, with the settings of flags on top. -/
def layerOptions (entries : ConfigEntries) (flags : List (OptionField × Setting)) :
    Except OptionFault Options := do
  let options ← Options.ofMapping entries
  if flags.isEmpty then return options else options.replace flags

/-- The options of a run once the configuration file is chosen. -/
def optionsOfChoice (files : FileTree) (s : Surroundings) (a : Arguments)
    (choice? : Option ConfigChoice) : Except LayerFault Options := do
  let entries ← match choice? with
    | none => pure []
    | some choice =>
      (loadConfig files s.directory choice.path s.readers).mapError LayerFault.config
  (layerOptions entries a.settings).mapError .option

/-- The options of a run. -/
def runOptions (files : FileTree) (s : Surroundings) (a : Arguments) :
    Except LayerFault Options := do
  let choice? ← (chooseConfig files s a).mapError .config
  optionsOfChoice files s a choice?

end ForumMarkup
