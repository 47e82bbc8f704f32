import ForumMarkup.Config.File
/-
**Finding a configuration file.**

Without being told of one, the program looks for a configuration file in a directory, in the
directory above it and so on up to the root, and at last in the home directory.  In each directory
the names of its own come before the project file, which counts only if it has a table for the
program that is not empty.

Main definitions:

* `ForumMarkup.dedicatedNames` — the names of the program's own files, the preferred one first;
* `ForumMarkup.usableIn` — the file to use in a directory;
* `ForumMarkup.findAbove` — the file to use in a directory or nearest above it;
* `ForumMarkup.discover` — the file to use at all.
-/

set_option autoImplicit false

namespace ForumMarkup

/-- The names of the program's own configuration files, the preferred one first. -/
def dedicatedNames : List String :=
  [".toml", ".yaml", ".yml", ".json"].map fun ending => "." ++ programName ++ ending

/-- The first of some names that a file in a directory has. -/
def firstFile (files : FileTree) (place : List String) :
    List String → Except ConfigFault (Option Path)
  | [] => .ok none
  | name :: names =>
    let p := (Path.ofNames place).child name
    match files.isFile [] p with
    | .error fault => .error (.lookup fault)
    | .ok true => .ok (some p)
    | .ok false => firstFile files place names

/-- Whether a directory has a project file with settings for the program.  A project file that is
refused for a foreseen reason counts as absent. -/
def hasProject (files : FileTree) (place : List String) (readers : ConfigReaders := .standard) :
    Except ConfigFault Bool :=
  let p := (Path.ofNames place).child projectFileName
  match files.isFile [] p with
  | .error fault => .error (.lookup fault)
  | .ok false => .ok false
  | .ok true =>
    match projectSection files [] p readers with
    | .ok entries => .ok (!entries.isEmpty)
    | .error fault => if fault.isForeseen then .ok false else .error fault

/-- The file to use in a directory. -/
def usableIn (files : FileTree) (place : List String) (readers : ConfigReaders := .standard) :
    Except ConfigFault (Option Path) := do
  match ← firstFile files place dedicatedNames with
  | some p => return some p
  | none =>
    if ← hasProject files place readers then
      return some ((Path.ofNames place).child projectFileName)
    else return none

/-- The file to use in a directory or nearest above it.  The directory is given by its names, the
last one first. -/
def findAbove (files : FileTree) (behind : List String) (readers : ConfigReaders := .standard) :
    Except ConfigFault (Option Path) :=
  match behind with
  | [] => usableIn files [] readers
  | name :: above => do
    match ← usableIn files (name :: above).reverse readers with
    | some p => return some p
    | none => findAbove files above readers

/-- The file to use in a directory or nearest above it, the directory in use if none is named. -/
def findInParents (files : FileTree) (directory : List String) (start? : Option Path)
    (readers : ConfigReaders := .standard) : Except ConfigFault (Option Path) :=
  let start := start?.getD { names := [] }
  if start.names.any fun n => n.toList.contains '\x00' then .error (.lookup .nullCharacter)
  else findAbove files (start.absolute directory).reverse readers

/-- The file to use: one in a directory or above it, or else one of the program's own in the home
directory. -/
def discover (files : FileTree) (directory home : List String) (start? : Option Path)
    (readers : ConfigReaders := .standard) : Except ConfigFault (Option Path) := do
  match ← findInParents files directory start? readers with
  | some p => return some p
  | none => firstFile files home dedicatedNames

end ForumMarkup
