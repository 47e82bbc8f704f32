import ForumMarkup.Log.Record
import ForumMarkup.Text.Utf8
/-
**The logger.**

The logger passes the records of the program on to its handlers.  Setting it up installs a handler
for the console and, if asked for, one for a file; handlers that an earlier set-up installed are
closed and removed, handlers that others added stay.  Before it is set up, records are left to
others.  Where neither a handler nor anyone else is left, only warnings show.

Main definitions:

* `ForumMarkup.Log.Handler` — a handler, with the mark of those that a set-up installed;
* `ForumMarkup.Log.Logger` — the logger, with the handlers that it has closed;
* `ForumMarkup.Log.Journal` — the logger with what it writes to;
* `ForumMarkup.Log.Journal.log` — a record passed on;
* `ForumMarkup.Log.Journal.configure` — the set-up.
-/

set_option autoImplicit false

namespace ForumMarkup.Log

/-! ### Handlers -/

/-- Where a handler brings records. -/
inductive Sink
  | console
  /-- The file at a place. -/
  | file (place : List String)
  /-- Nowhere. -/
  | nowhere
deriving DecidableEq, Repr

/-- A handler.  Those that a set-up installed are marked, and shown in a style.  Handlers that are
alike otherwise are told apart by their numbers. -/
structure Handler where
  number : Nat := 0
  sink : Sink
  level : Level := .unset
  style? : Option Style := none
  marked : Bool := false
deriving DecidableEq, Repr

/-- The logger.  Without a level of its own it passes on warnings; records that it leaves to others
are propagated. -/
structure Logger where
  level : Level := .unset
  propagate : Bool := true
  handlers : List Handler := []
  closed : List Handler := []
deriving DecidableEq, Repr

namespace Logger

/-- The least level that is passed on. -/
def threshold (l : Logger) : Int :=
  if l.level.rank = 0 then Level.warning.rank else l.level.rank

/-- Whether a level is passed on; a level that is not positive never is. -/
def passes (l : Logger) (level : Level) : Bool :=
  decide (0 < level.rank) && decide (l.threshold ≤ level.rank)

/-- The logger with one more handler, which is a new one. -/
def install (l : Logger) (h : Handler) : Logger :=
  { l with handlers := l.handlers ++ [h] }

/-- The logger after another part of the program has added a handler.  One that is there already is
not added again. -/
def attach (l : Logger) (h : Handler) : Logger :=
  if h ∈ l.handlers then l else l.install h

/-- The logger after another part of the program has removed a handler of its own. -/
def dismiss (l : Logger) (h : Handler) : Logger :=
  { l with handlers := l.handlers.erase h }

/-- The logger without the handlers that a set-up installed, which are closed. -/
def release (l : Logger) : Logger :=
  { l with
    handlers := l.handlers.filter fun h => !h.marked
    closed := l.closed ++ l.handlers.filter fun h => h.marked }

end Logger

/-! ### Writing -/

/-- The logger with what it writes to: the files and the console. -/
structure Journal where
  logger : Logger := {}
  files : FileTree
  console : String := ""

instance : Inhabited Journal := ⟨{ files := default }⟩

namespace Journal

/-- A line brought to the sink of a handler. -/
def bring (j : Journal) (sink : Sink) (line : String) : Journal :=
  match sink with
  | .console => { j with console := j.console ++ line }
  | .file place =>
    { j with files := j.files.extend place (Text.utf8Encode line.toList) }
  | .nowhere => j

/-- A record as a handler deals with it. -/
def handle (time : String) (r : Record) (j : Journal) (h : Handler) : Journal :=
  if h.level.rank ≤ r.level.rank then
    match h.style? with
    | some style => j.bring h.sink (style.line time r)
    | none => j
  else j

/-- A record for which there is no handler at all: a warning or more shows on the console, without
a style. -/
def fallBack (j : Journal) (r : Record) : Journal :=
  if Level.warning.rank ≤ r.level.rank then j.bring .console (r.message ++ "\n") else j

/-- A record passed on to the handlers.  Records of other programs are not. -/
def log (time : String) (j : Journal) (r : Record) : Journal :=
  if isOfProgram r.area && j.logger.passes r.level then
    if j.logger.handlers.isEmpty && !j.logger.propagate then j.fallBack r
    else j.logger.handlers.foldl (handle time r) j
  else j

/-- Events recorded one after the other. -/
def note (time : String) (j : Journal) (events : List Event) : Journal :=
  events.foldl (fun j e => j.log time e.record) j

/-- The journal with one more handler, which is a new one. -/
def install (j : Journal) (h : Handler) : Journal :=
  { j with logger := j.logger.install h }

end Journal

/-! ### Setting up -/

/-- The level that a set-up asks for. -/
inductive LevelRequest
  | level (l : Level)
  | name (s : String)
  /-- Neither a level nor a name. -/
  | nothing
deriving DecidableEq, Repr

/-- The reasons why a set-up ends early. -/
inductive SetupFault
  /-- A name stands for a text. -/
  | levelIsText
  /-- A name stands for a table. -/
  | levelIsTable
  /-- There is no name. -/
  | levelMissing
  /-- The name of the log file cannot even be looked up. -/
  | file (fault : StorageFault)
deriving DecidableEq, Repr

/-- What a set-up asks for. -/
structure Setup where
  level : LevelRequest
  /-- The log file; an empty name is none. -/
  file? : Option String := none
  style : Style := .plain

/-- The level that a request stands for; an unknown name stands for the level of steps. -/
def LevelRequest.resolve : LevelRequest → Except SetupFault Level
  | .level l => .ok l
  | .name s =>
    match named s with
    | .level l => .ok l
    | .text => .error .levelIsText
    | .table => .error .levelIsTable
    | .unknown => .ok .info
  | .nothing => .error .levelMissing

namespace Journal

/-- The journal with a handler for a log file.  A file that cannot be opened is recorded and passed
over. -/
def openFile (time : String) (directory : List String) (level : Level) (style : Style)
    (name : String) (j : Journal) : Except SetupFault Unit × Journal :=
  let p := Path.ofString name
  let place := p.absolute directory
  let full : Path := { root := if p.isAbsolute then p.root else "/", names := place }
  match j.files.openToAppend [] (.ofNames place) with
  | .ok files =>
    let h : Handler := { sink := .file place, level := level, style? := some style, marked := true }
    (.ok (), (({ j with files := files }).install h).note time [.fileOpened name])
  | .error .nullCharacter => (.error (.file .nullCharacter), j)
  | .error fault =>
    (.ok (), j.note time [.fileRefused name full.shown fault])

/-- The journal with new handlers of a level and style. -/
def equip (time : String) (directory : List String) (setup : Setup) (level : Level)
    (j : Journal) : Except SetupFault Unit × Journal :=
  let j : Journal := { j with logger := { j.logger with level := level, propagate := false } }
  let j := j.install
    { sink := .console, level := level, style? := some setup.style, marked := true }
  match setup.file? with
  | none => (.ok (), j)
  | some name =>
    if name.isEmpty then (.ok (), j) else j.openFile time directory level setup.style name

/-- The set-up: the outcome, and the journal after it, which is changed even by a set-up that ends
early. -/
def configure (time : String) (directory : List String) (setup : Setup) (j : Journal) :
    Except SetupFault Unit × Journal :=
  let j : Journal := { j with logger := j.logger.release }
  match setup.level.resolve with
  | .error fault => (.error fault, j)
  | .ok level => j.equip time directory setup level

end Journal

end ForumMarkup.Log
