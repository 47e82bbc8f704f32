import ForumMarkup.CommandLine.Help
import ForumMarkup.Text.Digit
import ForumMarkup.Text.Quoted
/-
**Reading the command line.**

A word that begins with a hyphen is a flag, unless it is a lone hyphen, a negative number, or an
unknown word with a space in it.  A long flag may be cut short as long as one flag is meant.  A
value follows its flag as the next word, behind an equals sign, or, for flags of one letter,
directly.  Behind a flag of one letter that takes no value more flags of one letter may follow.
Behind two hyphens there are no more flags.  The first word that is neither a flag nor a value is
the input.

Main definitions:

* `ForumMarkup.FlagValue` — the value of a flag, which may be empty;
* `ForumMarkup.Arguments` — what a command line asks for;
* `ForumMarkup.UsageFault` — the reasons for refusing a command line;
* `ForumMarkup.Word`, `ForumMarkup.Word.ofStrings` — words with the flags that they stand for;
* `ForumMarkup.FlagUse.ofWord` — the uses of flags that one word makes;
* `ForumMarkup.Reading.words` — the words of a command line, read one after the other;
* `ForumMarkup.readArguments` — what a command line asks for, or why it ends the program.
-/

set_option autoImplicit false

namespace ForumMarkup

/-! ### Values of flags -/

/-- The value of a flag.  Two hyphens are never a value: attached to a flag they leave it with an
empty list in the place of a text. -/
inductive FlagValue
  | text (s : String)
  | empty
deriving DecidableEq, Repr

namespace FlagValue

/-- The value of a flag to which a text is attached. -/
def ofAttached (cs : List Char) : FlagValue :=
  if cs == ['-', '-'] then .empty else .text (String.ofList cs)

/-- The text of a value that counts as given; an empty value does not, nor does an empty text. -/
def given? : FlagValue → Option String
  | .text s => if s.isEmpty then none else some s
  | .empty => none

/-- A value as the setting of an option. -/
def setting : FlagValue → Setting
  | .text s => .text s
  | .empty => .list []

end FlagValue

/-! ### Arguments -/

/-- What a command line asks for. -/
structure Arguments where
  input : String
  output? : Option FlagValue := none
  config? : Option FlagValue := none
  noConfig : Bool := false
  footnoteTitle? : Option FlagValue := none
  codeLanguage? : Option Bool := none
  lineBreak? : Option FlagValue := none
  logLevel : FlagValue := .text Flag.defaultLogLevel
  logFile? : Option FlagValue := none
  trace : Bool := false
deriving DecidableEq, Repr

/-- The reasons for refusing a command line. -/
inductive UsageFault
  /-- A word could stand for several flags. -/
  | ambiguous (word : String) (spellings : List String)
  /-- A flag that takes a value has none. -/
  | valueMissing (f : Flag)
  /-- A flag that takes no value is given one. -/
  | valueRefused (f : Flag) (value : String)
  /-- A value is none of those from which it is chosen. -/
  | choice (f : Flag) (value : String)
  /-- There is no input. -/
  | inputMissing
  /-- There are words that stand for nothing. -/
  | leftOver (words : List String)
deriving DecidableEq, Repr

/-- The sentence shown to the user. -/
def UsageFault.message : UsageFault → String
  | .ambiguous word spellings =>
    "ambiguous option: " ++ word ++ " could match " ++ ", ".intercalate spellings
  | .valueMissing f => "argument " ++ f.title ++ ": expected one argument"
  | .valueRefused f value =>
    "argument " ++ f.title ++ ": ignored explicit argument " ++ Text.quoted value
  | .choice f value =>
    "argument " ++ f.title ++ ": invalid choice: " ++ Text.quoted value ++ " (choose from " ++
      ", ".intercalate (f.choices.map Text.quoted) ++ ")"
  | .inputMissing => "the following arguments are required: " ++ Help.inputName
  | .leftOver words => "unrecognized arguments: " ++ " ".intercalate words

/-! ### Words -/

/-- What is attached to a flag in its word. -/
inductive Attached
  | nothing
  /-- Directly behind a flag of one letter. -/
  | joined (cs : List Char)
  /-- Behind an equals sign. -/
  | equals (value : String)
deriving DecidableEq, Repr

/-- A word of a command line. -/
inductive Word
  | plain (s : String)
  /-- Two hyphens, which end the flags. -/
  | endOfFlags
  | flag (f : Flag) (spelling : String) (attached : Attached)
  /-- A word that looks like a flag and is none. -/
  | unknown (s : String)
deriving DecidableEq, Repr

namespace Word

/-- A text cut at its first equals sign. -/
def cutAtEquals (s : String) : String × Attached :=
  let (before, rest) := s.toList.span fun c => c != '='
  match rest with
  | [] => (s, .nothing)
  | _ :: value => (String.ofList before, .equals (String.ofList value))

/-- Whether a text is a number behind a hyphen: digits, or digits around a point.  A line end may
follow. -/
def isNegativeNumber : List Char → Bool
  | '-' :: rest =>
    let body := if rest.getLast? == some '\n' then rest.dropLast else rest
    let isDigit (c : Char) : Bool := (Text.digitValue? c).isSome
    match body.span isDigit with
    | (whole, []) => !whole.isEmpty
    | (_, '.' :: places) => !places.isEmpty && places.all isDigit
    | _ => false
  | _ => false

/-- The flags that a word with two hyphens can mean, with the spelling that it is short for. -/
def longCandidates (s : String) : List Word :=
  let (start, attached) := cutAtEquals s
  Flag.table.filterMap fun (spelling, f) =>
    if start.toList.isPrefixOf spelling.toList then some (.flag f spelling attached) else none

/-- The flags that a word with one hyphen can mean: the flag of one letter in front. -/
def shortCandidates (s : String) : List Word :=
  let start := String.ofList (s.toList.take 2)
  match Flag.ofSpelling? start with
  | some f => [.flag f start (.joined (s.toList.drop 2))]
  | none => []

/-- The spelling that a word is taken for. -/
def spelling : Word → String
  | .flag _ s _ => s
  | .plain s => s
  | .unknown s => s
  | .endOfFlags => "--"

/-- A word that begins with a hyphen and is no spelling of a flag as it stands. -/
def ofHyphened (s : String) : Except UsageFault Word :=
  let candidates := match s.toList with
    | '-' :: '-' :: _ => longCandidates s
    | _ => shortCandidates s
  match candidates with
  | [w] => .ok w
  | _ :: _ => .error (.ambiguous s (candidates.map spelling))
  | [] =>
    if isNegativeNumber s.toList || s.toList.contains ' ' then .ok (.plain s)
    else .ok (.unknown s)

/-- A word in front of the end of the flags. -/
def ofString (s : String) : Except UsageFault Word :=
  match s.toList with
  | ['-'] => .ok (.plain s)
  | '-' :: _ =>
    match Flag.ofSpelling? s with
    | some f => .ok (.flag f s .nothing)
    | none =>
      let (start, attached) := cutAtEquals s
      match attached, Flag.ofSpelling? start with
      | .equals _, some f => .ok (.flag f start attached)
      | _, _ => ofHyphened s
  | _ => .ok (.plain s)

/-- The words of a command line. -/
def ofStrings : List String → Except UsageFault (List Word)
  | [] => .ok []
  | s :: rest =>
    if s == "--" then .ok (.endOfFlags :: rest.map .plain)
    else do
      let w ← ofString s
      let ws ← ofStrings rest
      return w :: ws

end Word

/-! ### Uses of flags -/

/-- The use of a flag under a spelling, with its value if it takes one. -/
structure FlagUse where
  flag : Flag
  spelling : String
  value : FlagValue := .empty
deriving DecidableEq, Repr

/-- What a word makes of itself: uses of flags, and the words behind it. -/
structure Taken where
  uses : List FlagUse
  rest : List Word
deriving DecidableEq, Repr

namespace FlagUse

/-- A flag with nothing attached: a value is the next word. -/
def withNext (f : Flag) (spelling : String) (rest : List Word) : Except UsageFault Taken :=
  if f.takesValue then
    match rest with
    | .plain v :: rest => .ok { uses := [⟨f, spelling, .text v⟩], rest := rest }
    | _ => .error (.valueMissing f)
  else .ok { uses := [{ flag := f, spelling := spelling }], rest := rest }

/-- A flag `f` of one letter that takes no value and has a text attached: flags of one letter, of
which one that takes a value has the rest of the text attached. -/
def joined (f : Flag) (spelling : String) (rest : List Word) :
    List Char → Except UsageFault Taken
  | [] => .error (.valueRefused f "")
  | c :: cs =>
    let next := String.ofList ['-', c]
    match Flag.ofSpelling? next with
    | none => .error (.valueRefused f (String.ofList (c :: cs)))
    | some g => do
      let taken ←
        if cs.isEmpty then withNext g next rest
        else if g.takesValue then pure { uses := [⟨g, next, .ofAttached cs⟩], rest := rest }
        else joined g next rest cs
      return { taken with uses := { flag := f, spelling := spelling } :: taken.uses }

/-- The uses of flags that a word with a text attached makes. -/
def withAttached (f : Flag) (spelling : String) (cs : List Char) (rest : List Word) :
    Except UsageFault Taken :=
  if f.takesValue then .ok { uses := [⟨f, spelling, .ofAttached cs⟩], rest := rest }
  else if Flag.isLong spelling then .error (.valueRefused f (String.ofList cs))
  else joined f spelling rest cs

/-- The uses of flags that a word makes. -/
def ofWord (f : Flag) (spelling : String) (attached : Attached) (rest : List Word) :
    Except UsageFault Taken :=
  match attached with
  | .nothing => withNext f spelling rest
  | .joined cs => withAttached f spelling cs rest
  | .equals value => withAttached f spelling value.toList rest

end FlagUse

/-! ### Reading -/

/-- A command line read so far: its uses of flags, its input, and what is left over. -/
structure Reading where
  uses : List FlagUse := []
  input? : Option String := none
  leftOver : List String := []
deriving DecidableEq, Repr

/-- The ways in which a command line ends the program. -/
inductive UsageEnd
  | help
  | fault (f : UsageFault)
deriving DecidableEq, Repr

namespace Reading

/-- The use of a flag added. -/
def add (r : Reading) (u : FlagUse) : Reading :=
  { r with uses := r.uses ++ [u] }

/-- The use of a flag added if it is in order.  The use of the help flag ends the program, and a
text has to be one of those from which it is chosen. -/
def use (r : Reading) (u : FlagUse) : Except UsageEnd Reading :=
  if u.flag = .help then .error .help
  else
    match u.value with
    | .text v =>
      if u.flag.choices.isEmpty || u.flag.choices.contains v then .ok (r.add u)
      else .error (.fault (.choice u.flag v))
    | .empty => .ok (r.add u)

/-- Uses of flags added in order. -/
def useAll (r : Reading) : List FlagUse → Except UsageEnd Reading
  | [] => .ok r
  | u :: us => do (← r.use u).useAll us

/-- Words that are left over. -/
def leave (r : Reading) (words : List String) : Reading :=
  { r with leftOver := r.leftOver ++ words }

/-- The words of a command line, read one after the other. -/
def words : (fuel : Nat) → Reading → List Word → Except UsageEnd Reading
  | 0, r, _ => .ok r
  | _ + 1, r, [] => .ok r
  | fuel + 1, r, .unknown s :: ws => words fuel (r.leave [s]) ws
  | fuel + 1, r, .flag f spelling attached :: ws => do
    let taken ← (FlagUse.ofWord f spelling attached ws).mapError .fault
    let r ← r.useAll taken.uses
    words fuel r taken.rest
  | fuel + 1, r, .plain s :: ws =>
    match r.input?, ws with
    | none, .endOfFlags :: ws => words fuel { r with input? := some s } ws
    | none, ws => words fuel { r with input? := some s } ws
    | some _, ws => words fuel (r.leave [s]) ws
  | fuel + 1, r, .endOfFlags :: ws =>
    match r.input?, ws with
    | none, .plain s :: ws => words fuel { r with input? := some s } ws
    | _, ws => words fuel (r.leave ["--"]) ws

end Reading

/-! ### Whole command lines -/

namespace Arguments

/-- The arguments after the use of a flag. -/
def apply (a : Arguments) (u : FlagUse) : Arguments :=
  match u.flag with
  | .help => a
  | .output => { a with output? := some u.value }
  | .config => { a with config? := some u.value }
  | .noConfig => { a with noConfig := true }
  | .option .footnoteTitle => { a with footnoteTitle? := some u.value }
  | .option .codeLanguage =>
    { a with codeLanguage? := some (!"--no-".toList.isPrefixOf u.spelling.toList) }
  | .option .lineBreak => { a with lineBreak? := some u.value }
  | .logLevel => { a with logLevel := u.value }
  | .logFile => { a with logFile? := some u.value }
  | .trace => { a with trace := true }

/-- The arguments that a reading amounts to. -/
def ofReading (r : Reading) : Except UsageEnd Arguments :=
  match r.input?, r.leftOver with
  | none, _ => .error (.fault .inputMissing)
  | some _, _ :: _ => .error (.fault (.leftOver r.leftOver))
  | some input, [] => .ok (r.uses.foldl apply { input := input })

/-- The option settings that the flags give. -/
def settings (a : Arguments) : List (OptionField × Setting) :=
  [a.footnoteTitle?.map fun v => (OptionField.footnoteTitle, v.setting),
    a.codeLanguage?.map fun b => (OptionField.codeLanguage, Setting.bool b),
    a.lineBreak?.map fun v => (OptionField.lineBreak, v.setting)].filterMap id

end Arguments

/-- What a command line asks for, or how it ends the program. -/
def readArguments (line : List String) : Except UsageEnd Arguments := do
  let words ← (Word.ofStrings line).mapError .fault
  let r ← Reading.words (words.length + 1) {} words
  Arguments.ofReading r

/-- What a command line that ends the program has to say, on the error stream unless it is the
help. -/
def UsageEnd.text : UsageEnd → String
  | .help => Help.text
  | .fault f => Help.usage ++ programName ++ ": error: " ++ f.message ++ "\n"

end ForumMarkup
