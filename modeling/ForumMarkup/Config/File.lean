import ForumMarkup.Config.Format
import ForumMarkup.Storage.FileTree
/-
**Configuration files.**

A configuration file holds a mapping.  A project file is TOML and shared with other programs; the
mapping is the table of this program's tools section in it, and empty if there is no such table.

Main definitions:

* `ForumMarkup.programName` — the name of the program;
* `ForumMarkup.ConfigFault` — the reasons why a configuration file gives no mapping;
* `ForumMarkup.toolSection`, `ForumMarkup.projectSection` — the program's table in a project file;
* `ForumMarkup.loadConfig` — the mapping of a configuration file.
-/

set_option autoImplicit false

namespace ForumMarkup

/-- The name of the program, as it stands in file names, sections, usage and records. -/
def programName : String := "org2bb"

/-- The entries of a configuration mapping. -/
abbrev ConfigEntries := List (Setting × Setting)

/-! ### Faults -/

/-- The reasons why a configuration file gives no mapping. -/
inductive ConfigFault
  /-- There is no such file. -/
  | absent (path : Path)
  /-- The path leads to a directory. -/
  | notFile (path : Path)
  /-- The ending of the name is of no format. -/
  | format (suffix : String)
  /-- The bytes of a file cannot be had. -/
  | unreadable (path : Path) (fault : StorageFault)
  /-- The contents do not follow the format. -/
  | contents (path : Path) (fault : ContentFault)
  /-- The contents are no mapping. -/
  | notMapping (path : Path) (typeName : String)
  /-- The bytes of a project file cannot be had. -/
  | projectUnreadable (path : Path) (fault : StorageFault)
  /-- A project file is not TOML. -/
  | projectNotToml (path : Path)
  /-- The program's section of a project file is no table. -/
  | sectionNotTable (path : Path) (typeName : String)
  /-- A project file is not UTF-8. -/
  | projectEncoding (path : Path)
  /-- An integer in a project file has too many digits. -/
  | projectInteger (path : Path)
  /-- The sections of tools in a project file are no table. -/
  | toolsNotTable (path : Path)
  /-- The path cannot even be looked up. -/
  | lookup (fault : StorageFault)
deriving Repr

namespace ConfigFault

/-- The sentence shown to the user.  Faults that are not foreseen have none: those of contents that
say so, and the last four. -/
def message? : ConfigFault → Option String
  | .absent path => some ("Configuration file does not exist: " ++ path.shown)
  | .notFile path => some ("Configuration path is not a file: " ++ path.shown)
  | .format suffix =>
    some ("Unsupported config file format: " ++ suffix ++ ". Use .json, .toml, or .yaml")
  | .unreadable path fault =>
    some ("Error reading config file " ++ path.shown ++ ": " ++ fault.message path.shown)
  | .contents path fault =>
    if fault.isForeseen then
      some ("Error reading config file " ++ path.shown ++ ": " ++ fault.message)
    else none
  | .notMapping path typeName =>
    some ("Configuration file " ++ path.shown ++ " must contain a mapping, got " ++ typeName)
  | .projectUnreadable path fault =>
    some ("Error reading pyproject.toml " ++ path.shown ++ ": " ++ fault.message path.shown)
  | .projectNotToml path =>
    some ("Invalid TOML in pyproject.toml " ++ path.shown ++ ": " ++
      (ContentFault.notToml .malformed).message)
  | .sectionNotTable path typeName =>
    some ("[tool." ++ programName ++ "] section in " ++ path.shown ++ " must be a table, got " ++
      typeName)
  | .projectEncoding _ => none
  | .projectInteger _ => none
  | .toolsNotTable _ => none
  | .lookup _ => none

/-- Whether a fault is foreseen: it is told to the user, and a search passes over it. -/
def isForeseen (fault : ConfigFault) : Bool :=
  fault.message?.isSome

end ConfigFault

/-! ### Project files -/

/-- The name of a project file. -/
def projectFileName : String := "pyproject.toml"

/-- Whether a name is that of a project file; letters count alike in either case. -/
def isProjectName (name : String) : Bool :=
  Text.lower name == projectFileName

/-- The program's table in the entries of a project file. -/
def toolSection (p : Path) (table : Toml.Table) : Except ConfigFault ConfigEntries :=
  match (Setting.mapping table).lookup? "tool" with
  | none => .ok []
  | some (.mapping tools) =>
    match (Setting.mapping tools).lookup? programName with
    | none => .ok []
    | some (.mapping entries) => .ok entries
    | some found => .error (.sectionNotTable p found.typeName)
  | some _ => .error (.toolsNotTable p)

/-- The program's table in a project file. -/
def projectSection (files : FileTree) (directory : List String) (p : Path)
    (readers : ConfigReaders := .standard) : Except ConfigFault ConfigEntries :=
  match files.read directory p with
  | .error fault => .error (.projectUnreadable p fault)
  | .ok bytes =>
    match readers.toml bytes with
    | .error .encoding => .error (.projectEncoding p)
    | .error (.notToml .integerTooLong) => .error (.projectInteger p)
    | .error _ => .error (.projectNotToml p)
    | .ok table => toolSection p table

/-! ### Other files -/

/-- The mapping of a file's contents. -/
def mappingOfContents (p : Path) (format : ConfigFormat) (bytes : List UInt8)
    (readers : ConfigReaders := .standard) : Except ConfigFault ConfigEntries :=
  match format.read bytes readers with
  | .error fault => .error (.contents p fault)
  | .ok (.mapping entries) => .ok entries
  | .ok found => .error (.notMapping p found.typeName)

/-- The mapping of an existing file, which has the format that its ending says. -/
def loadByFormat (files : FileTree) (directory : List String) (p : Path)
    (readers : ConfigReaders := .standard) : Except ConfigFault ConfigEntries :=
  match files.read directory p with
  | .error fault => .error (.unreadable p fault)
  | .ok bytes =>
    match ConfigFormat.ofSuffix? p.suffix with
    | none => .error (.format (Text.lower p.suffix))
    | some format => mappingOfContents p format bytes readers

/-- The mapping of a configuration file. -/
def loadConfig (files : FileTree) (directory : List String) (p : Path)
    (readers : ConfigReaders := .standard) : Except ConfigFault ConfigEntries :=
  match files.stat directory p with
  | .error fault => .error (.lookup fault)
  | .ok .absent => .error (.absent p)
  | .ok .directory => .error (.notFile p)
  | .ok .file =>
    if isProjectName p.name then projectSection files directory p readers
    else loadByFormat files directory p readers

end ForumMarkup
