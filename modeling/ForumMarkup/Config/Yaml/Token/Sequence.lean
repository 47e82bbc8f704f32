import ForumMarkup.Config.Yaml.Token.Content
import ForumMarkup.Config.Yaml.Token.Property
/-
**The tokens of a YAML text.**

A text is taken apart token by token.  Each step passes over spaces and comments, closes the blocks
that the indentation ends, and reads one token.

Main definitions:

* `ForumMarkup.Yaml.Scanner.token` — the step over one token;
* `ForumMarkup.Yaml.Scanner.next`, `ForumMarkup.Yaml.Scanner.run` — the step to behind the next
  token, and all steps;
* `ForumMarkup.Yaml.tokens` — the tokens of a text.
-/

set_option autoImplicit false

namespace ForumMarkup.Yaml

namespace Scanner

/-! ### Marks -/

/-- A document marker. -/
def marker (s : Scanner) (t : Token) : Option Scanner := do
  let s ← (s.unwind (-1)).forgetKey
  return ({ s with keyAllowed := false }.skip 3).push t

/-- An opening bracket. -/
def openFlow (s : Scanner) (t : Token) : Option Scanner := do
  let s ← s.rememberKey
  return ({ s with keys := none :: s.keys, keyAllowed := true }.forward).push t

/-- A closing bracket. -/
def closeFlow (s : Scanner) (t : Token) : Option Scanner := do
  if s.inFlow then
    let s ← s.forgetKey
    return ({ s with keys := s.keys.tail, keyAllowed := false }.forward).push t
  else none

/-- A comma between brackets. -/
def flowEntry (s : Scanner) : Option Scanner := do
  let s ← s.forgetKey
  return ({ s with keyAllowed := true }.forward).push .flowEntry

/-- The hyphen of an entry. -/
def blockEntry (s : Scanner) : Option Scanner := do
  if !s.inFlow && !s.keyAllowed then none
  else
    let s := s.openBlock s.column .blockSequence s.tokens.size
    let s ← s.forgetKey
    return ({ s with keyAllowed := true }.forward).push .blockEntry

/-- The question mark of a key. -/
def explicitKey (s : Scanner) : Option Scanner := do
  if !s.inFlow && !s.keyAllowed then none
  else
    let s := s.openBlock s.column .blockMapping s.tokens.size
    let s ← s.forgetKey
    return ({ s with keyAllowed := !s.inFlow }.forward).push .key

/-- The colon of a value.  It marks the key that may have begun on its level. -/
def value (s : Scanner) : Option Scanner := do
  match s.keys with
  | some k :: ks =>
    let s := { s with keys := none :: ks, tokens := s.tokens.insertIdxIfInBounds k.before .key }
    let s := s.openBlock k.column .blockMapping k.before
    return ({ s with keyAllowed := false }.forward).push .value
  | _ =>
    if !s.inFlow && !s.keyAllowed then none
    else
      let s := s.openBlock s.column .blockMapping s.tokens.size
      let s ← s.forgetKey
      return ({ s with keyAllowed := !s.inFlow }.forward).push .value

/-! ### Steps -/

/-- Whether a plain scalar can begin here. -/
def plainBegins (s : Scanner) : Bool :=
  match s.rest with
  | [] => false
  | c :: rest =>
    if c == '-' then !wordEnds rest
    else if c == '?' || c == ':' then !s.inFlow && !wordEnds rest
    else !(isSpaceOrBreak c || isFlowMark c || c == '#' || c == '&' || c == '*' || c == '!' ||
      c == '|' || c == '>' || c == '\x27' || c == '\x22' || c == '%' || c == '@' || c == '\x60')

/-- The scanner behind the next token, which begins here. -/
def token (s : Scanner) : Option Scanner :=
  match s.rest with
  | [] => none
  | c :: rest =>
    if s.column == 0 && c == '%' then s.directive
    else if s.column == 0 && isMarker s.rest then
      s.marker (if c == '-' then .documentStart else .documentEnd)
    else if c == '[' then s.openFlow .flowSequence
    else if c == '\x7b' then s.openFlow .flowMapping
    else if c == ']' then s.closeFlow .flowSequenceEnd
    else if c == '\x7d' then s.closeFlow .flowMappingEnd
    else if c == ',' then s.flowEntry
    else if c == '-' && wordEnds rest then s.blockEntry
    else if c == '?' && (s.inFlow || wordEnds rest) then s.explicitKey
    else if c == ':' && (s.inFlow || wordEnds rest) then s.value
    else if c == '*' then s.name .alias
    else if c == '&' then s.name .anchor
    else if c == '!' then s.tag
    else if (c == '|' || c == '>') && !s.inFlow then s.block (c == '>')
    else if c == '\x27' || c == '\x22' then s.quoted c
    else if s.plainBegins then s.plain
    else none

/-- The scanner behind the next token, or at the end of the text with all blocks closed. -/
def next (s : Scanner) : Option Scanner := do
  let s := (← s.forgetStale).settle
  let s ← (toToken (s.rest.length + 1) s).forgetStale
  let s := s.unwind s.column
  if s.rest.isEmpty then (s.unwind (-1)).forgetKey
  else s.token

/-- The scanner at the end of the text. -/
def run : (fuel : Nat) → Scanner → Option Scanner
  | 0, s => if s.rest.isEmpty then some s else none
  | fuel + 1, s => do
    let s ← s.next
    if s.rest.isEmpty then s.next else run fuel s

end Scanner

/-! ### Whole texts -/

/-- The characters that a text may hold. -/
def isAllowed (c : Char) : Bool :=
  let n := c.toNat
  n == 9 || n == 10 || n == 13 || (0x20 ≤ n && n ≤ 0x7E) || n == 0x85 ||
    (0xA0 ≤ n && n ≤ 0xD7FF) || (0xE000 ≤ n && n ≤ 0xFFFD) || 0x10000 ≤ n

/-- The tokens of a text; nothing for a malformed one. -/
def tokens (source : List Char) : Option (List Token) :=
  if source.all isAllowed then
    let source := match source with
      | '\uFEFF' :: rest => rest
      | cs => cs
    (Scanner.run (source.length + 1) { rest := source }).map fun s => s.tokens.toList
  else none

end ForumMarkup.Yaml
