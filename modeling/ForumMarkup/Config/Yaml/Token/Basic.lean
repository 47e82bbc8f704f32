import ForumMarkup.Text.Percent
/-
**Tokens of YAML.**

Indentation shows how blocks are nested.  A scanner turns it into tokens that open and close blocks,
so that the nesting can be read off the tokens alone.  A key is only known by the colon after it:
the scanner remembers where a key may have begun, on each level of brackets one, and marks the place
later.  A key has to stand on one line and in front of its colon within 1024 characters.  Tokens are
certain up to the first place where a key may have begun; a reader takes them as soon as they are
certain, and has the next one read only when there is none.

Main definitions:

* `ForumMarkup.Yaml.Token` — the tokens;
* `ForumMarkup.Yaml.Scanner` — a scanner in the middle of a text;
* `ForumMarkup.Yaml.Scanner.forward`, `ForumMarkup.Yaml.Scanner.lineEnd?`,
  `ForumMarkup.Yaml.Scanner.toToken` — moving on;
* `ForumMarkup.Yaml.Scanner.rememberKey`, `ForumMarkup.Yaml.Scanner.forgetKey` — the places of
  keys;
* `ForumMarkup.Yaml.Scanner.settle`, `ForumMarkup.Yaml.Scanner.giveUp` — the tokens that are
  certain, and a text that cannot be read any further;
* `ForumMarkup.Yaml.Scanner.openBlock`, `ForumMarkup.Yaml.Scanner.unwind` — opening and closing
  blocks.
-/

set_option autoImplicit false

namespace ForumMarkup.Yaml

/-! ### Tokens and scanners -/

/-- The directives: the version of the language, and what a handle stands for in tags. -/
inductive Directive
  | version (major : Nat)
  | handle (handle leading : String)
  | other
deriving DecidableEq, Repr

/-- The tokens.  A scalar between quotes or in a block of its own is `quoted`.  At an escape whose
number is too great for the machine the tokens end with `overflow`. -/
inductive Token
  | directive (d : Directive)
  | documentStart
  | documentEnd
  | blockSequence
  | blockMapping
  | blockEnd
  | flowSequence
  | flowSequenceEnd
  | flowMapping
  | flowMappingEnd
  | blockEntry
  | flowEntry
  | key
  | value
  | anchor (name : String)
  | alias (name : String)
  | tag (handle? : Option String) (suffix : String)
  | plain (s : String)
  | quoted (s : String)
  | overflow
deriving DecidableEq, Repr

/-- A place where a key may have begun: the number of tokens before it, and where it is in the text.
In a mapping without brackets a line has to begin with a key. -/
structure KeyPlace where
  before : Nat
  required : Bool
  offset : Nat
  line : Nat
  column : Nat
deriving Repr

/-- A scanner in the middle of a text.  `keys` has an entry for each level of brackets, the
innermost first; outside of brackets it has one entry.  `settled` counts the tokens that were
certain when the last step began. -/
structure Scanner where
  rest : List Char
  offset : Nat := 0
  line : Nat := 0
  column : Nat := 0
  indent : Int := -1
  indents : List Int := []
  keyAllowed : Bool := true
  keys : List (Option KeyPlace) := [none]
  tokens : Array Token := #[]
  settled : Nat := 0

/-! ### Characters -/

/-- The characters that end a line. -/
def isBreak (c : Char) : Bool :=
  c == '\n' || c == '\r' || c == '\x85' || c == '\u2028' || c == '\u2029'

/-- The characters that end a word. -/
def isSpaceOrBreak (c : Char) : Bool :=
  c == ' ' || c == '\t' || isBreak c

/-- Whether a line ends here, or a space stands here. -/
def atGap : List Char → Bool
  | [] => true
  | c :: _ => c == ' ' || isBreak c

/-- The brackets and the comma. -/
def isFlowMark (c : Char) : Bool :=
  c == ',' || c == '[' || c == ']' || c == '\x7b' || c == '\x7d'

/-- Whether a word ends here. -/
def wordEnds : List Char → Bool
  | [] => true
  | c :: _ => isSpaceOrBreak c

/-- Whether a document marker is in front: three hyphens or three points, and the end of a word. -/
def isMarker : List Char → Bool
  | '-' :: '-' :: '-' :: rest => wordEnds rest
  | '.' :: '.' :: '.' :: rest => wordEnds rest
  | _ => false

namespace Scanner

/-- Whether the scanner is inside brackets. -/
def inFlow (s : Scanner) : Bool := s.keys.length > 1

/-! ### Moving -/

/-- The scanner behind the next character. -/
def forward (s : Scanner) : Scanner :=
  match s.rest with
  | [] => s
  | c :: rest =>
    let s := { s with rest := rest, offset := s.offset + 1 }
    if isBreak c && !(c == '\r' && rest.head? == some '\n') then
      { s with line := s.line + 1, column := 0 }
    else if c == '\uFEFF' then s
    else { s with column := s.column + 1 }

/-- The scanner behind a number of characters. -/
def skip (s : Scanner) : Nat → Scanner
  | 0 => s
  | n + 1 => s.forward.skip n

/-- The line end in front, as it counts in a text, and the scanner behind it. -/
def lineEnd? (s : Scanner) : Option (Char × Scanner) :=
  match s.rest with
  | '\r' :: '\n' :: _ => some ('\n', s.skip 2)
  | c :: _ =>
    if isBreak c then some (if c == '\u2028' || c == '\u2029' then c else '\n', s.forward) else none
  | [] => none

/-- The scanner behind the spaces in front. -/
def skipSpaces (s : Scanner) : Scanner :=
  s.skip (s.rest.takeWhile fun c => c == ' ').length

/-- The scanner behind the comment in front, if there is one. -/
def skipComment (s : Scanner) : Scanner :=
  match s.rest with
  | '#' :: _ => s.skip (s.rest.takeWhile fun c => !isBreak c).length
  | _ => s

/-- The scanner in front of the next token: behind spaces, comments and line ends. -/
def toToken : (fuel : Nat) → Scanner → Scanner
  | 0, s => s
  | fuel + 1, s =>
    let s := s.skipSpaces.skipComment
    match s.lineEnd? with
    | some (_, s) => toToken fuel (if s.inFlow then s else { s with keyAllowed := true })
    | none => s

/-- The scanner on the next line; nothing but spaces and a comment may stand before it. -/
def restOfLine (s : Scanner) : Option Scanner :=
  let s := s.skipSpaces.skipComment
  if s.rest.isEmpty then some s else s.lineEnd?.map fun e => e.2

/-- The scanner in front of the given rest of its text. -/
def skipTo (s : Scanner) (rest : List Char) : Scanner :=
  s.skip (s.rest.length - rest.length)

/-! ### Places of keys -/

/-- Forgets places too far behind.  A required key must not be forgotten. -/
def forgetStale (s : Scanner) : Option Scanner := do
  let keys ← s.keys.mapM fun k? => match k? with
    | none => some none
    | some k =>
      if k.line != s.line || s.offset - k.offset > 1024 then
        if k.required then none else some none
      else some (some k)
  return { s with keys := keys }

/-- Counts the tokens that are certain: those in front of the first place of a key. -/
def settle (s : Scanner) : Scanner :=
  { s with
    settled := s.keys.foldl (fun n k? => min n ((k?.map KeyPlace.before).getD n)) s.tokens.size }

/-- Forgets the place on the innermost level.  A required key must not be forgotten. -/
def forgetKey (s : Scanner) : Option Scanner :=
  match s.keys with
  | some k :: ks => if k.required then none else some { s with keys := none :: ks }
  | _ => some s

/-- Remembers that a key may begin here. -/
def rememberKey (s : Scanner) : Option Scanner :=
  if s.keyAllowed then do
    let s ← s.forgetKey
    let k : KeyPlace :=
      { before := s.tokens.size, required := !s.inFlow && s.indent == s.column
        offset := s.offset, line := s.line, column := s.column }
    return { s with keys := some k :: s.keys.tail }
  else some s

/-! ### Blocks -/

/-- Adds a token. -/
def push (s : Scanner) (t : Token) : Scanner := { s with tokens := s.tokens.push t }

/-- The scanner at an escape whose number is too great.  Nothing behind it is read, and of the
tokens only those are there that were certain before this step. -/
def giveUp (s : Scanner) : Scanner :=
  { s with rest := [], keys := [none], tokens := s.tokens.extract 0 s.settled }.push .overflow

/-- Closes blocks that are indented more than a column. -/
def unwindTo (column : Int) : List Int → Scanner → Scanner
  | [], s => s
  | i :: is, s =>
    if s.indent > column then
      unwindTo column is ({ s with indent := i, indents := is }.push .blockEnd)
    else s

/-- Closes blocks that are indented more than a column; inside brackets there are none. -/
def unwind (s : Scanner) (column : Int) : Scanner :=
  if s.inFlow then s else unwindTo column s.indents s

/-- Opens a block at a column, unless it is open; the token is put in at a place. -/
def openBlock (s : Scanner) (column : Nat) (t : Token) (place : Nat) : Scanner :=
  if !s.inFlow && s.indent < column then
    { s with
      indents := s.indent :: s.indents
      indent := column
      tokens := s.tokens.insertIdxIfInBounds place t }
  else s

end Scanner

end ForumMarkup.Yaml
