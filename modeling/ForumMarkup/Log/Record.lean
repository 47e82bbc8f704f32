import ForumMarkup.Config.File
import ForumMarkup.Document.Load
import ForumMarkup.Pass.State
/-
**Log records.**

A record is a message with a level, and comes from an area of the program.  A console and a log file
show records in one of two styles, which differ in whether the time and the area are shown.

Main definitions:

* `ForumMarkup.Log.Level`, `ForumMarkup.Log.Level.rank`, `ForumMarkup.Log.Level.name` — levels,
  which are compared by number;
* `ForumMarkup.Log.Level.named` — the level of a name;
* `ForumMarkup.Log.Record`, `ForumMarkup.Log.Style.line` — records, and how they are shown;
* `ForumMarkup.Log.Event`, `ForumMarkup.Log.Event.record` — what the program records.
-/

set_option autoImplicit false

namespace ForumMarkup.Log

/-! ### Levels -/

/-- A level: a number, or a truth value that counts as zero or one. -/
inductive Level
  | number (n : Int)
  | flag (b : Bool)
deriving DecidableEq, Repr

namespace Level

/-- The number of a level. -/
def rank : Level → Int
  | .number n => n
  | .flag b => if b then 1 else 0

/-- The level of details. -/
def debug : Level := .number 10

/-- The level of steps taken. -/
def info : Level := .number 20

/-- The level of warnings. -/
def warning : Level := .number 30

/-- The level of errors. -/
def error : Level := .number 40

/-- The level of errors that end the program. -/
def critical : Level := .number 50

/-- The level that no one has set. -/
def unset : Level := .number 0

/-- The levels that have a name of their own, the lowest first. -/
def nameTable : List (Int × String) :=
  [(0, "NOTSET"), (10, "DEBUG"), (20, "INFO"), (30, "WARNING"), (40, "ERROR"), (50, "CRITICAL")]

/-- A level as it is shown when its number has no name. -/
def shown : Level → String
  | .number n => toString n
  | .flag b => if b then "True" else "False"

/-- The name of a level. -/
def name (l : Level) : String :=
  match nameTable.find? fun e => e.1 == l.rank with
  | some e => e.2
  | none => "Level " ++ l.shown

end Level

/-- What a name stands for among the settings of logging. -/
inductive Named
  | level (l : Level)
  /-- A text, which is no level. -/
  | text
  /-- A table, which is no level. -/
  | table
  /-- Nothing. -/
  | unknown
deriving DecidableEq, Repr

/-- What a name in upper case stands for. -/
def upperNamed : String → Named
  | "NOTSET" => .level .unset
  | "DEBUG" => .level .debug
  | "INFO" => .level .info
  | "WARN" => .level .warning
  | "WARNING" => .level .warning
  | "ERROR" => .level .error
  | "CRITICAL" => .level .critical
  | "FATAL" => .level .critical
  | "BASIC_FORMAT" => .text
  | "_STYLES" => .table
  | _ => .unknown

/-- What a name stands for; letters count alike in either case. -/
def named (s : String) : Named := upperNamed (Text.upper s)

/-! ### Records -/

/-- A record. -/
structure Record where
  area : String
  level : Level
  message : String
deriving DecidableEq, Repr

/-- How records are shown. -/
inductive Style
  /-- The level and the message. -/
  | plain
  /-- The time, the level, the area and the message. -/
  | traced
deriving DecidableEq, Repr

/-- The form of a style. -/
def Style.form : Style → String
  | .plain => "%(levelname)s: %(message)s"
  | .traced => "[%(asctime)s] [%(levelname)s] [%(name)s] %(message)s"

/-- The form of the time in a style. -/
def Style.timeForm? : Style → Option String
  | .plain => none
  | .traced => some "%Y-%m-%d %H:%M:%S"

/-- A record as a line, at a given time. -/
def Style.line (style : Style) (time : String) (r : Record) : String :=
  match style with
  | .plain => r.level.name ++ ": " ++ r.message ++ "\n"
  | .traced =>
    "[" ++ time ++ "] [" ++ r.level.name ++ "] [" ++ r.area ++ "] " ++ r.message ++ "\n"

/-! ### Areas -/

/-- The name of an area of the program. -/
def areaNamed (name : String) : String := programName ++ "." ++ name

/-- Whether an area is the program or a part of it. -/
def isOfProgram (area : String) : Bool :=
  area == programName || (programName ++ ".").toList.isPrefixOf area.toList

/-! ### Events -/

/-- What the program records. -/
inductive Event
  /-- Records go to a file. -/
  | fileOpened (name : String)
  /-- A log file cannot be opened. -/
  | fileRefused (name : String) (path : String) (fault : StorageFault)
  /-- A configuration file is used. -/
  | configuration (name : String)
  /-- The output is in a file. -/
  | wrote (name : String)
  | load (e : LoadEvent)
  | pass (e : PassEvent)
deriving DecidableEq, Repr

namespace Event

/-- The area that an event belongs to. -/
def area : Event → String
  | .fileOpened _ => programName
  | .fileRefused _ _ _ => programName
  | .configuration _ => areaNamed "cli"
  | .wrote _ => areaNamed "cli"
  | .load (.loaded _) => areaNamed "api"
  | .load .versionAssumed => areaNamed "ast.serialization"
  | .pass (.resolved _ _ _) => areaNamed "utils.links"
  | .pass _ => areaNamed "renderers.bbcode"

/-- The level of an event. -/
def level : Event → Level
  | .fileRefused _ _ _ => .warning
  | .configuration _ => .info
  | .wrote _ => .info
  | _ => .debug

/-- The message of an event. -/
def message : Event → String
  | .fileOpened name => "Logging to file: " ++ name
  | .fileRefused name path fault =>
    "Could not open log file " ++ name ++ ": " ++ fault.message path
  | .configuration name => "Using configuration file: " ++ name
  | .wrote name => "Wrote " ++ name
  | .load (.loaded p) => "Loaded document tree from " ++ p.shown
  | .load .versionAssumed =>
    "No schema_version in document tree, assuming " ++ toString schemaVersion
  | .pass (.began kind) => "Transcoding " ++ kind.name ++ " tree to BBCode"
  | .pass (.resolved scheme target url) =>
    "Resolved " ++ scheme ++ " link " ++ Text.quoted target ++ " to " ++ Text.quoted url
  | .pass (.listed count) => "Rendered " ++ toString count ++ " footnote(s)"

/-- The record of an event. -/
def record (e : Event) : Record :=
  { area := e.area, level := e.level, message := e.message }

end Event

end ForumMarkup.Log
