import ForumMarkup.Config.Yaml.Fault
import ForumMarkup.Config.Yaml.Token.Basic
import ForumMarkup.Text.Encoding
/-
**Scalars in a YAML text.**

A scalar is written plainly, between quotes, or in a block of its own.  A plain scalar ends where a
mark begins.  Between quotes, and in plain scalars, a line end counts as a space, and of several
line ends the first counts for nothing.  A block of its own keeps its line ends, or folds them in
the same way; its header says so, and what becomes of the line ends at its end.

Main definitions:

* `ForumMarkup.Yaml.Scanner.plain`, `ForumMarkup.Yaml.Scanner.quoted`,
  `ForumMarkup.Yaml.Scanner.block` — the scanner behind a scalar of each kind;
* `ForumMarkup.Yaml.Chomp`, `ForumMarkup.Yaml.blockHeader` — the header of a block.
-/

set_option autoImplicit false

namespace ForumMarkup.Yaml

namespace Scanner

/-! ### Scalars without quotes -/

/-- The characters of a plain scalar up to a blank or a mark. -/
def plainWord (inFlow : Bool) : List Char → List Char
  | [] => []
  | c :: rest =>
    if isSpaceOrBreak c then []
    else if c == ':' && (wordEnds rest || (inFlow && (rest.head?.map isFlowMark).getD false)) then
      []
    else if inFlow && (isFlowMark c || c == '?') then []
    else c :: plainWord inFlow rest

/-- Line ends and spaces after a line end: the line ends that count, and whether a document marker
follows. -/
def foldLines : (fuel : Nat) → Scanner → List Char × Bool × Scanner
  | 0, s => ([], false, s)
  | fuel + 1, s =>
    if isMarker s.rest then ([], true, s)
    else
      let s := s.skipSpaces
      match s.lineEnd? with
      | none => ([], false, s)
      | some (b, s) =>
        let (bs, marker, s) := foldLines fuel s
        (b :: bs, marker, s)

/-- What the line ends between two lines count as. -/
def joined (first : Char) (others : List Char) : List Char :=
  (if first != '\n' then [first] else if others.isEmpty then [' '] else []) ++ others

/-- What stands between two words of a plain scalar; nothing where the scalar has to end. -/
def plainGap (s : Scanner) : List Char × Scanner :=
  let spaces := s.rest.takeWhile fun c => c == ' '
  let s := s.skip spaces.length
  match s.lineEnd? with
  | none => (spaces, s)
  | some (first, s) =>
    let s := { s with keyAllowed := true }
    let (others, marker, s) := foldLines (s.rest.length + 1) s
    (if marker then [] else joined first others, s)

/-- The characters of a plain scalar after a gap. -/
def plainFrom (indent : Int) : (fuel : Nat) → (gap : List Char) → Scanner → List Char × Scanner
  | 0, _, s => ([], s)
  | fuel + 1, gap, s =>
    let word := if s.rest.head? == some '#' then [] else plainWord s.inFlow s.rest
    if word.isEmpty then ([], s)
    else
      let s := { s.skip word.length with keyAllowed := false }
      let (next, s) := s.plainGap
      if next.isEmpty || s.rest.head? == some '#' || (!s.inFlow && s.column < indent) then
        (gap ++ word, s)
      else
        let (cs, s) := plainFrom indent fuel next s
        (gap ++ word ++ cs, s)

/-- A plain scalar. -/
def plain (s : Scanner) : Option Scanner := do
  let s ← s.rememberKey
  let (cs, s) := plainFrom (s.indent + 1) (s.rest.length + 1) [] { s with keyAllowed := false }
  return s.push (.plain (String.ofList cs))

/-! ### Scalars with quotes -/

/-- The character that an escape of one letter denotes. -/
def letterEscape? : Char → Option Char
  | '0' => some '\x00'
  | 'a' => some '\x07'
  | 'b' => some '\x08'
  | 't' => some '\t'
  | '\t' => some '\t'
  | 'n' => some '\n'
  | 'v' => some '\x0b'
  | 'f' => some '\x0c'
  | 'r' => some '\r'
  | 'e' => some '\x1b'
  | ' ' => some ' '
  | '\x22' => some '\x22'
  | '\\' => some '\\'
  | '/' => some '/'
  | 'N' => some '\x85'
  | '_' => some '\xa0'
  | 'L' => some '\u2028'
  | 'P' => some '\u2029'
  | _ => none

/-- The number of hexadecimal digits after a letter. -/
def escapeWidth? : Char → Option Nat
  | 'x' => some 2
  | 'u' => some 4
  | 'U' => some 8
  | _ => none

/-- The number that hexadecimal digits denote. -/
def hexNumber? (digits : List Char) : Option Nat :=
  digits.foldlM (fun n c => (Text.hexValue? c).map fun d => n * 16 + d) 0

/-- The code point that hexadecimal digits denote. -/
def codePoint (digits : List Char) : Except Fault Nat := do
  let n ← wellFormed (hexNumber? digits)
  if n < 0x110000 then .ok n
  else .error (if n < Nat.pow 2 31 then .malformed else .overflow)

/-- The second surrogate of a pair, if its escape is in front. -/
def secondSurrogate? : List Char → Option Nat
  | '\\' :: 'u' :: a :: b :: c :: d :: _ =>
    (hexNumber? [a, b, c, d]).filter fun n => 0xDC00 ≤ n && n < 0xE000
  | _ => none

/-- Line ends and blanks inside quotes: the line ends that count.  A document marker must not stand
there. -/
def quotedBreaks : (fuel : Nat) → Scanner → Option (List Char × Scanner)
  | 0, _ => none
  | fuel + 1, s =>
    if isMarker s.rest then none
    else
      let s := s.skip (s.rest.takeWhile fun c => c == ' ' || c == '\t').length
      match s.lineEnd? with
      | none => some ([], s)
      | some (b, s) => do
        let (bs, s) ← quotedBreaks fuel s
        return (b :: bs, s)

/-- An escape behind its backslash.  Two surrogates in order make one character; for one that stands
alone the replacement character is read. -/
def quotedEscape (s : Scanner) : Except Fault (List Char × Scanner) :=
  match s.rest with
  | [] => .error .malformed
  | c :: rest =>
    match letterEscape? c, escapeWidth? c with
    | some d, _ => .ok ([d], s.forward)
    | none, some width =>
      let digits := rest.take width
      if digits.length < width then .error .malformed
      else do
        let n ← codePoint digits
        let s := s.skip (width + 1)
        match secondSurrogate? s.rest with
        | some m => return (Text.joinUnits [n, m], s.skip 6)
        | none => return ([Text.scalar n], s)
    | none, none =>
      match s.lineEnd? with
      | some (_, s) => wellFormed (quotedBreaks (s.rest.length + 1) s)
      | none => .error .malformed

/-- Blanks inside quotes: spaces, or the line ends that count. -/
def quotedGap (s : Scanner) : Option (List Char × Scanner) :=
  let blanks := s.rest.takeWhile fun c => c == ' ' || c == '\t'
  let s := s.skip blanks.length
  match s.rest with
  | [] => none
  | _ =>
    match s.lineEnd? with
    | none => some (blanks, s)
    | some (first, s) => do
      let (others, s) ← quotedBreaks (s.rest.length + 1) s
      return (joined first others, s)

/-- The characters up to the closing quote, and the scanner behind it. -/
def quotedFrom (quote : Char) : (fuel : Nat) → Scanner → Except Fault (List Char × Scanner)
  | 0, _ => .error .malformed
  | fuel + 1, s =>
    match s.rest with
    | [] => .error .malformed
    | c :: rest =>
      let step (piece : Except Fault (List Char × Scanner)) :
          Except Fault (List Char × Scanner) := do
        let (cs, s) ← piece
        let (ds, s) ← quotedFrom quote fuel s
        return (cs ++ ds, s)
      if c == quote then
        if quote == '\x27' && rest.head? == some quote then step (.ok ([quote], s.skip 2))
        else .ok ([], s.forward)
      else if isSpaceOrBreak c then step (wellFormed s.quotedGap)
      else if c == '\\' && quote == '\x22' then step s.forward.quotedEscape
      else step (.ok ([c], s.forward))

/-- A scalar between quotes. -/
def quoted (s : Scanner) (quote : Char) : Option Scanner := do
  let s ← s.rememberKey
  match quotedFrom quote (s.rest.length + 1) { s.forward with keyAllowed := false } with
  | .ok (cs, s) => return s.push (.quoted (String.ofList cs))
  | .error .overflow => return s.giveUp
  | .error _ => none

end Scanner

/-! ### Scalars in blocks -/

/-- What becomes of the line ends at the end of a block: they are dropped, only that of the last
line is kept, or all are kept. -/
inductive Chomp
  | strip
  | clip
  | keep
deriving DecidableEq, Repr

/-- The mark of a header for the line ends at the end, if it is in front, and what follows. -/
def takeChomp : List Char → Option Chomp × List Char
  | '+' :: rest => (some .keep, rest)
  | '-' :: rest => (some .strip, rest)
  | cs => (none, cs)

/-- The digit of a header for the indentation, if it is in front, and what follows. -/
def takeIndent : List Char → Option Nat × List Char
  | [] => (none, [])
  | c :: rest => if '1' ≤ c ∧ c ≤ '9' then (some (c.toNat - 48), rest) else (none, c :: rest)

/-- The marks of a header in either order, and what follows. -/
def blockHeader (cs : List Char) : Chomp × Option Nat × List Char :=
  match takeChomp cs with
  | (some chomp, rest) =>
    let (indent?, rest) := takeIndent rest
    (chomp, indent?, rest)
  | (none, rest) =>
    let (indent?, rest) := takeIndent rest
    let (chomp?, rest) := takeChomp rest
    (chomp?.getD .clip, indent?, rest)

/-- The contents of a block: its text, the line end of its last line, and those after it. -/
structure BlockText where
  text : List Char
  lastEnd : List Char
  after : List Char

/-- The text that counts. -/
def BlockText.chomped (t : BlockText) : Chomp → List Char
  | .strip => t.text
  | .clip => t.text ++ t.lastEnd
  | .keep => t.text ++ t.lastEnd ++ t.after

namespace Scanner

/-- Empty lines of a block, and the spaces up to its column in the line after them: the line ends
that count. -/
def blockBreaks (indent : Nat) : (fuel : Nat) → Scanner → List Char × Scanner
  | 0, s => ([], s)
  | fuel + 1, s =>
    let spaces := (s.rest.takeWhile fun c => c == ' ').length
    let s := s.skip (min spaces (indent - s.column))
    match s.lineEnd? with
    | none => ([], s)
    | some (b, s) =>
      let (bs, s) := blockBreaks indent fuel s
      (b :: bs, s)

/-- Empty lines in front of a block, and the spaces in the line after them: the line ends that
count, and the greatest column that spaces lead to. -/
def blockIndent : (fuel : Nat) → (greatest : Nat) → Scanner → List Char × Nat × Scanner
  | 0, greatest, s => ([], greatest, s)
  | fuel + 1, greatest, s =>
    let spaced := s.rest.head? == some ' '
    let s := s.skipSpaces
    let greatest := if spaced then max greatest s.column else greatest
    match s.lineEnd? with
    | none => ([], greatest, s)
    | some (b, s) =>
      let (bs, greatest, s) := blockIndent fuel greatest s
      (b :: bs, greatest, s)

/-- Whether another line of a block begins here. -/
def inBlock (s : Scanner) (indent : Nat) : Bool :=
  s.column == indent && !s.rest.isEmpty

/-- Whether a blank is in front. -/
def atBlank (s : Scanner) : Bool :=
  s.rest.head? == some ' ' || s.rest.head? == some '\t'

/-- The lines of a block from here on, after the line ends `between` this line and the one
before. -/
def blockLines (folded : Bool) (indent : Nat) :
    (fuel : Nat) → (between : List Char) → Scanner → BlockText × Scanner
  | 0, between, s => (⟨[], [], between⟩, s)
  | fuel + 1, between, s =>
    let indented := s.atBlank
    let line := s.rest.takeWhile fun c => !isBreak c
    let s := s.skip line.length
    let (lastEnd, s) := match s.lineEnd? with
      | some (b, s) => ([b], s)
      | none => ([], s)
    let (breaks, s) := s.blockBreaks indent (s.rest.length + 1)
    if s.inBlock indent then
      let join :=
        if folded && lastEnd == ['\n'] && !indented && !s.atBlank then
          (if breaks.isEmpty then [' '] else [])
        else lastEnd
      let (t, s) := blockLines folded indent fuel (join ++ breaks) s
      ({ t with text := between ++ line ++ t.text }, s)
    else (⟨between ++ line, lastEnd, breaks⟩, s)

/-- A scalar in a block of its own. -/
def block (s : Scanner) (folded : Bool) : Option Scanner := do
  let s ← s.forgetKey
  let s := { s with keyAllowed := true }.forward
  let (chomp, indent?, rest) := blockHeader s.rest
  if !atGap rest then none
  else
    let s ← (s.skipTo rest).restOfLine
    let least := (max (s.indent + 1) 1).toNat
    let (breaks, indent, s) := match indent? with
      | some n =>
        let (bs, s) := s.blockBreaks (least + n - 1) (s.rest.length + 1)
        (bs, least + n - 1, s)
      | none =>
        let (bs, greatest, s) := s.blockIndent (s.rest.length + 1) 0
        (bs, max least greatest, s)
    let (t, s) :=
      if s.inBlock indent then s.blockLines folded indent (s.rest.length + 1) breaks
      else (⟨[], [], breaks⟩, s)
    return s.push (.quoted (String.ofList (t.chomped chomp)))

end Scanner

end ForumMarkup.Yaml
