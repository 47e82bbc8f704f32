import ForumMarkup.CommandLine.Run
import Std.Time.Zoned
/-
**The program.**

The program takes a picture of the files that a run may consult, lets the run go on the picture,
writes the files that the run has changed, and passes on what the run has to say.

Main definitions:

* `ForumMarkup.Program.consulted` — the places that a run may consult;
* `ForumMarkup.Program.picture` — the files at places;
* `ForumMarkup.Program.start` — a run on the files of the system.
-/

set_option autoImplicit false

namespace ForumMarkup.Program

/-! ### Places -/

/-- The places that a path leads through, from the root on. -/
def places (directory : List String) (p : Path) : List (List String) :=
  let stations := (List.range (p.names.length + 1)).map fun k =>
    Path.absolute { p with names := p.names.take k } directory
  stations.flatMap fun place => (List.range (place.length + 1)).map fun k => place.take k

/-- The configuration files that a search looks for in a directory. -/
def candidates (place : List String) : List (List String) :=
  (dedicatedNames ++ [projectFileName]).map fun name => place ++ [name]

/-- The places that a run may consult. -/
def consulted (s : Surroundings) (a : Arguments) : List (List String) :=
  let values := [a.output?, a.config?, a.logFile?].filterMap fun v? => v?.bind FlagValue.given?
  let named := a.input :: values ++ s.configVariable?.toList
  let above := (List.range (s.directory.length + 1)).map fun k => s.directory.take k
  named.flatMap (fun name => places s.directory (.ofString name)) ++
    above ++ above.flatMap candidates ++ candidates s.home

/-- The written form of a place. -/
def nameOf (place : List String) : String := "/" ++ "/".intercalate place

/-! ### Files of the system -/

/-- The code by which the system says that a file is a directory. -/
def directoryCode : UInt32 := 21

/-- A picture with what stands at one more place. -/
def look (t : FileTree) (place : List String) : IO FileTree := do
  match t.at? place with
  | some _ => return t
  | none =>
    try
      let bytes ← IO.FS.readBinFile (nameOf place)
      return t.put place (.file bytes.toList)
    catch e =>
      match e with
      | .inappropriateType _ code _ =>
        if code == directoryCode then return t.put place (.directory []) else return t
      | _ => return t

/-- The files at places. -/
def picture (ps : List (List String)) : IO FileTree :=
  ps.foldlM look (.directory [])

/-- Writes the files that differ from a picture. -/
def restore (before after : FileTree) : IO Unit :=
  after.files.forM fun f => do
    unless before.files.contains f do
      IO.FS.writeBinFile (nameOf f.1) (ByteArray.mk f.2.toArray)

/-! ### Surroundings -/

/-- A number in two digits. -/
def pad (n : Int) : String := if n < 10 then "0" ++ toString n else toString n

/-- The local time as records show it. -/
def clock : IO String := do
  let now ← Std.Time.PlainDateTime.now
  let d := now.date
  let t := now.time
  return toString d.year.toInt ++ "-" ++ pad d.month.val ++ "-" ++ pad d.day.val ++ " " ++
    pad t.hour.val ++ ":" ++ pad t.minute.val ++ ":" ++ pad t.second.val

/-- The text on the input stream, with line feeds for all line ends. -/
def inputStream : IO String := do
  return Text.plainLines (← (← IO.getStdin).readToEnd)

/-- What a run finds around it; the input stream is read only if it is the input. -/
def surroundings (readsStream : Bool) : IO Surroundings := do
  let here := (← IO.currentDir).toString
  let home := (← IO.getEnv "HOME").getD "/"
  return {
    directory := (Path.ofString here).names
    home := (Path.ofString home).names
    configVariable? := ← IO.getEnv configVariableName
    input := ← if readsStream then inputStream else pure ""
    time := ← clock }

/-- A run on the files of the system. -/
def start (line : List String) : IO UInt32 := do
  let arguments? := (readArguments line).toOption
  let s ← surroundings (arguments?.any fun a => a.input == streamName)
  let before ← match arguments? with
    | some a => picture (consulted s a)
    | none => pure (.directory [])
  let outcome := run before s line
  restore before outcome.files
  IO.print outcome.output
  IO.eprint outcome.errors
  match outcome.ending with
  | .exit code => return UInt32.ofNat code
  | .crash _ =>
    IO.eprintln (programName ++ ": unforeseen fault")
    return 1

end ForumMarkup.Program

/-- The program on a command line. -/
def main (line : List String) : IO UInt32 :=
  ForumMarkup.Program.start line
