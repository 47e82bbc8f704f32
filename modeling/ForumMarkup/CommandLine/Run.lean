import ForumMarkup.CommandLine.Layering
import ForumMarkup.Export
import ForumMarkup.Log.Logger
/-
**A run of the program.**

A run reads its command line, sets up the log, puts the options together, loads the document, and
brings its markup to a file or to the output stream.  What goes wrong is told on the error stream,
and the exit code says where: two for the command line, the options and the document, one for the
markup and its destination.  A fault that is not foreseen crashes the run.

Main definitions:

* `ForumMarkup.Crash` — the faults that are not foreseen;
* `ForumMarkup.Ending`, `ForumMarkup.Outcome` — how a run ends, and what it leaves behind;
* `ForumMarkup.loadInput` — the document at the input of a run;
* `ForumMarkup.Session` — a run in the middle;
* `ForumMarkup.Session.configure`, `ForumMarkup.Session.options`, `ForumMarkup.Session.document`,
  `ForumMarkup.Session.finish` — the steps of a run;
* `ForumMarkup.run` — a whole run.
-/

set_option autoImplicit false

namespace ForumMarkup

/-! ### Endings -/

/-- The faults that are not foreseen. -/
inductive Crash
  | setup (fault : Log.SetupFault)
  | layers (fault : LayerFault)
  | load (fault : LoadFault)
  | pass (reason : Abort)
  | delivery (fault : DeliveryFault)

/-- How a run ends. -/
inductive Ending
  | exit (code : Nat)
  | crash (c : Crash)

/-- The exit code of a run that did what it was asked for. -/
def successCode : Nat := 0

/-- The exit code of a run that has no markup, or cannot write it. -/
def renderingCode : Nat := 1

/-- The exit code of a run with a wrong command line, wrong options or a wrong document. -/
def validationCode : Nat := 2

/-- What a run leaves behind. -/
structure Outcome where
  ending : Ending
  output : String
  errors : String
  files : FileTree

/-! ### Inputs -/

/-- The name of the input that stands for the input stream. -/
def streamName : String := "-"

/-- The document at an input: in the text on the input stream, or in a file. -/
def loadInput (files : FileTree) (s : Surroundings) (input : String)
    (limit? : Option Nat := Text.digitLimit?) : Loaded :=
  if input == streamName then loadText s.input limit?
  else load files s.directory (.path (.ofString input)) limit?

/-! ### Sessions -/

/-- A run in the middle: its surroundings, and the log with the files and the error stream. -/
structure Session where
  surroundings : Surroundings
  journal : Log.Journal

/-- A step of a run: a result and the session after it, or the outcome of the whole run. -/
abbrev Step (α : Type) := Except Outcome (α × Session)

namespace Session

/-- The outcome of a run that ends here. -/
def stop (s : Session) (ending : Ending) (output : String) : Outcome :=
  { ending := ending, output := output, errors := s.journal.console, files := s.journal.files }

/-- The outcome of a run that ends here with a sentence for the user. -/
def refuse (s : Session) (code : Nat) (message : String) : Outcome :=
  { s.stop (.exit code) "" with errors := s.journal.console ++ "Error: " ++ message ++ "\n" }

/-- The outcome of a run that crashes here. -/
def crash (s : Session) (c : Crash) : Outcome :=
  s.stop (.crash c) ""

/-- The session after events are recorded. -/
def note (s : Session) (events : List Log.Event) : Session :=
  { s with journal := s.journal.note s.surroundings.time events }

/-! ### Steps -/

/-- The level that a command line asks of the log. -/
def levelOf (a : Arguments) : Log.LevelRequest :=
  if a.trace then .level .debug
  else
    match a.logLevel with
    | .text s => .name s
    | .empty => .nothing

/-- What a command line asks of the log. -/
def setupOf (a : Arguments) : Log.Setup :=
  { level := levelOf a
    file? := a.logFile?.bind FlagValue.given?
    style := if a.trace then .traced else .plain }

/-- The log is set up. -/
def configure (s : Session) (a : Arguments) : Step Unit :=
  let (outcome, journal) :=
    s.journal.configure s.surroundings.time s.surroundings.directory (setupOf a)
  let s := { s with journal := journal }
  match outcome with
  | .ok () => .ok ((), s)
  | .error fault => .error (s.crash (.setup fault))

/-- The outcome of a run that has no options. -/
def refuseLayers (s : Session) (fault : LayerFault) : Outcome :=
  match fault.message? with
  | some message => s.refuse validationCode message
  | none => s.crash (.layers fault)

/-- The options are put together. -/
def options (s : Session) (a : Arguments) : Step Options :=
  match chooseConfig s.journal.files s.surroundings a with
  | .error fault => .error (s.refuseLayers (.config fault))
  | .ok choice? =>
    let s := s.note (choice?.toList.map fun choice => .configuration choice.name)
    match optionsOfChoice s.journal.files s.surroundings a choice? with
    | .error fault => .error (s.refuseLayers fault)
    | .ok options => .ok (options, s)

/-- The document as it is found at the input. -/
def found (s : Session) (input : String) : Loaded :=
  loadInput s.journal.files s.surroundings input

/-- The document is loaded. -/
def document (s : Session) (a : Arguments) : Step Node :=
  let (outcome, record) := s.found a.input
  let s := s.note (record.map .load)
  match outcome with
  | .ok root => .ok (root, s)
  | .error fault =>
    .error (if fault.isForeseen then s.refuse validationCode fault.message
      else s.crash (.load fault))

/-- The markup is brought to the output file. -/
def write (s : Session) (name markup : String) : Outcome :=
  match deliver s.journal.files s.surroundings.directory markup (.path (.ofString name)) with
  | .error (.nullPath p) => s.crash (.delivery (.nullPath p))
  | .error fault => s.refuse renderingCode fault.message
  | .ok delivery =>
    let files := match delivery with
      | .stored files => files
      | _ => s.journal.files
    let s := { s with journal := { s.journal with files := files } }
    (s.note [.wrote name]).stop (.exit successCode) ""

/-- The markup is made and brought to its destination. -/
def finish (s : Session) (a : Arguments) (options : Options) (root : Node) : Outcome :=
  let (outcome, record) := renderDocument options root
  let s := s.note (record.map .pass)
  match outcome with
  | .error reason =>
    match reason.message? with
    | some message => s.refuse renderingCode message
    | none => s.crash (.pass reason)
  | .ok markup =>
    match a.output?.bind FlagValue.given? with
    | none => s.stop (.exit successCode) markup
    | some name => s.write name markup

/-- The steps of a run whose command line is read. -/
def steps (s : Session) (a : Arguments) : Except Outcome Outcome := do
  let ((), s) ← s.configure a
  let (options, s) ← s.options a
  let (root, s) ← s.document a
  return s.finish a options root

end Session

/-! ### Whole runs -/

/-- The outcome of a run whose command line ends it. -/
def UsageEnd.outcome (files : FileTree) (e : UsageEnd) : Outcome :=
  match e with
  | .help => { ending := .exit successCode, output := e.text, errors := "", files := files }
  | .fault _ => { ending := .exit validationCode, output := "", errors := e.text, files := files }

/-- A whole run. -/
def run (files : FileTree) (surroundings : Surroundings) (line : List String) : Outcome :=
  match readArguments line with
  | .error e => e.outcome files
  | .ok a =>
    let s : Session := { surroundings := surroundings, journal := { files := files } }
    match s.steps a with
    | .ok outcome => outcome
    | .error outcome => outcome

end ForumMarkup
