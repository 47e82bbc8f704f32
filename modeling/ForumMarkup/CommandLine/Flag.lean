import ForumMarkup.Config.File
import ForumMarkup.Options
/-
**Flags of the command line.**

Each flag has one or more spellings, and either takes a value or none.  Each option of the output
has a flag of its own, named as its field with hyphens; a switch has a second spelling that turns it
off.

Main definitions:

* `ForumMarkup.Flag`, `ForumMarkup.Flag.all` — the flags, in the order in which they are shown;
* `ForumMarkup.Flag.spellings`, `ForumMarkup.Flag.takesValue`, `ForumMarkup.Flag.choices` — what a
  flag looks like, and what it takes;
* `ForumMarkup.Flag.title` — a flag as it is called in messages;
* `ForumMarkup.Flag.ofSpelling?` — the flag of a spelling.
-/

set_option autoImplicit false

namespace ForumMarkup

/-- The flags. -/
inductive Flag
  | help
  | output
  | config
  | noConfig
  | option (field : OptionField)
  | logLevel
  | logFile
  | trace
deriving DecidableEq, Repr

/-- The groups in which flags are explained. -/
inductive FlagGroup
  | general
  | rendering
  | logging
deriving DecidableEq, Repr

/-- The heading of a group. -/
def FlagGroup.heading : FlagGroup → String
  | .general => "options"
  | .rendering => "rendering options"
  | .logging => "logging"

/-- Whether a field is a switch, which takes no value. -/
def OptionField.isSwitch : OptionField → Bool
  | .codeLanguage => true
  | .footnoteTitle => false
  | .lineBreak => false

/-- What an option is for. -/
def OptionField.purpose : OptionField → String
  | .footnoteTitle => "Title of the footnote section headline"
  | .codeLanguage => "Emit the source block language as [code lang=\"...\"]"
  | .lineBreak => "Text placed inside [br][/br] tags"

/-- The name of a field in the spelling of flags: low lines count as hyphens. -/
def OptionField.flagName (field : OptionField) : String :=
  String.ofList (field.name.toList.map fun c => if c == '_' then '-' else c)

namespace Flag

/-- Whether a spelling is that of a long flag, with two hyphens. -/
def isLong (spelling : String) : Bool := "--".toList.isPrefixOf spelling.toList

/-- The flags in the order in which they are shown. -/
def all : List Flag :=
  [.help, .output, .config, .noConfig] ++ OptionField.all.map .option ++
    [.logLevel, .logFile, .trace]

/-- The names of the levels from which the log level is chosen. -/
def logLevels : List String := ["DEBUG", "INFO", "WARNING", "ERROR", "CRITICAL"]

/-- The log level when none is chosen. -/
def defaultLogLevel : String := "WARNING"

/-- The spellings of a flag. -/
def spellings : Flag → List String
  | .help => ["-h", "--help"]
  | .output => ["-o", "--output"]
  | .config => ["--config"]
  | .noConfig => ["--no-config"]
  | .option field =>
    if field.isSwitch then ["--" ++ field.flagName, "--no-" ++ field.flagName]
    else ["--" ++ field.flagName]
  | .logLevel => ["--log-level"]
  | .logFile => ["--log-file"]
  | .trace => ["--trace"]

/-- Whether a flag takes a value. -/
def takesValue : Flag → Bool
  | .help => false
  | .output => true
  | .config => true
  | .noConfig => false
  | .option field => !field.isSwitch
  | .logLevel => true
  | .logFile => true
  | .trace => false

/-- The values from which the value of a flag is chosen, if there is a choice to make. -/
def choices : Flag → List String
  | .logLevel => logLevels
  | _ => []

/-- The value of a flag as it is shown. -/
def placeholder : Flag → String
  | .output => "OUTPUT"
  | .config => "CONFIG"
  | .option field => String.ofList (field.name.toList.map Char.toUpper)
  | .logLevel => "\x7b" ++ ",".intercalate logLevels ++ "\x7d"
  | .logFile => "LOG_FILE"
  | _ => ""

/-- What a flag is for. -/
def purpose : Flag → String
  | .help => "show this help message and exit"
  | .output => "Output file (default: stdout)"
  | .config => "Configuration file (.toml, .yaml, .json or pyproject.toml)"
  | .noConfig => "Ignore discovered configuration files"
  | .option field => field.purpose
  | .logLevel => "Logging level (default: " ++ defaultLogLevel ++ ")"
  | .logFile => "Also write log messages to this file"
  | .trace => "Debug logging with timestamps and logger names"

/-- The group in which a flag is explained. -/
def group : Flag → FlagGroup
  | .option _ => .rendering
  | .logLevel => .logging
  | .logFile => .logging
  | .trace => .logging
  | _ => .general

/-- A flag as it is called in messages. -/
def title (f : Flag) : String :=
  "/".intercalate f.spellings

/-- All spellings with their flags, in the order in which they are shown. -/
def table : List (String × Flag) :=
  all.flatMap fun f => f.spellings.map fun s => (s, f)

/-- The flag of a spelling. -/
def ofSpelling? (s : String) : Option Flag :=
  lookupEntry s table

end Flag

end ForumMarkup
