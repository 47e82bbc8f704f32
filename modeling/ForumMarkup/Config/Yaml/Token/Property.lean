import ForumMarkup.Config.Yaml.Token.Basic
import ForumMarkup.Text.Digit
/-
**Tags, anchors and directives in a YAML text.**

A tag in front of a node says what the node is.  It is written in full, or after a handle that
stands for its beginning.  An anchor names a node, so that an alias can repeat it.  Directives stand
in front of a document and say what handles stand for.

Main definitions:

* `ForumMarkup.Yaml.tagText?` — a tag;
* `ForumMarkup.Yaml.directiveText?` — a directive;
* `ForumMarkup.Yaml.Scanner.tag`, `ForumMarkup.Yaml.Scanner.name`,
  `ForumMarkup.Yaml.Scanner.directive` — the scanner behind each of them.
-/

set_option autoImplicit false

namespace ForumMarkup.Yaml

/-! ### Names -/

/-- The ASCII letters and digits. -/
def isAlphanumeric (c : Char) : Bool :=
  let n := c.toNat
  (48 ≤ n && n ≤ 57) || (65 ≤ n && n ≤ 90) || (97 ≤ n && n ≤ 122)

/-- The characters of names. -/
def isNameChar (c : Char) : Bool := isAlphanumeric c || c == '-' || c == '_'

/-- Whether a name may end here. -/
def nameEnds : List Char → Bool
  | [] => true
  | c :: _ => isSpaceOrBreak c || "?:,]\x7d%@`".toList.contains c

/-! ### Tags -/

/-- The characters of tags. -/
def isTagChar (c : Char) : Bool :=
  isAlphanumeric c || "-;/?:@&=+$,_.!~*\x27()[]%".toList.contains c

/-- The text that the characters of a tag stand for after the bytes of the escapes directly before
them, latest first.  The bytes of escapes in a row have to be UTF-8. -/
def tagDecodeFrom (run : List UInt8) : List Char → Option (List Char)
  | [] => Text.utf8Decode? run.reverse
  | '%' :: a :: b :: rest => do
    let high ← Text.hexValue? a
    let low ← Text.hexValue? b
    tagDecodeFrom (UInt8.ofNat (high * 16 + low) :: run) rest
  | '%' :: _ => none
  | c :: rest => do
    let before ← Text.utf8Decode? run.reverse
    let after ← tagDecodeFrom [] rest
    return before ++ c :: after

/-- The part of a tag that is not a handle, and what follows. -/
def tagBody? (cs : List Char) : Option (String × List Char) :=
  let (body, rest) := cs.span isTagChar
  if body.isEmpty then none
  else (tagDecodeFrom [] body).map fun decoded => (String.ofList decoded, rest)

/-- A handle between exclamation marks, or a single exclamation mark before a space, and what
follows. -/
def tagHandle? : List Char → Option (String × List Char)
  | '!' :: rest =>
    if rest.head? == some ' ' then some ("!", rest)
    else
      let (name, rest) := rest.span isNameChar
      match rest with
      | '!' :: rest => some ("!" ++ String.ofList name ++ "!", rest)
      | _ => none
  | _ => none

/-- A tag, and what follows it.  The single exclamation mark says that a scalar is to be read as if
it were plain. -/
def tagText? : List Char → Option (Token × List Char)
  | '!' :: '<' :: rest => do
    let (body, rest) ← tagBody? rest
    match rest with
    | '>' :: rest => return (.tag none body, rest)
    | _ => none
  | '!' :: rest =>
    if wordEnds rest then some (.tag none "!", rest)
    else do
      let word := rest.takeWhile fun c => !(c == ' ' || isBreak c)
      let (handle, rest) ← if word.contains '!' then tagHandle? ('!' :: rest) else some ("!", rest)
      let (body, rest) ← tagBody? rest
      return (.tag (some handle) body, rest)
  | _ => none

/-! ### Directives -/

/-- A number in ASCII digits, and what follows. -/
def versionNumber? (cs : List Char) : Option (Nat × List Char) :=
  let (ds, rest) := cs.span fun c => '0' ≤ c && c ≤ '9'
  if ds.isEmpty || Text.maxIntegerDigits < ds.length then none
  else some (ds.foldl (fun n c => n * 10 + (c.toNat - 48)) 0, rest)

/-- The text without the spaces in front. -/
def dropSpaces (cs : List Char) : List Char := cs.dropWhile fun c => c == ' '

/-- The version that a directive names: two numbers with a point between them. -/
def versionDirective? (cs : List Char) : Option (Directive × List Char) := do
  let (major, rest) ← versionNumber? (dropSpaces cs)
  match rest with
  | '.' :: rest => return (.version major, (← versionNumber? rest).2)
  | _ => none

/-- The handle that a directive names, and what it stands for. -/
def handleDirective? (cs : List Char) : Option (Directive × List Char) := do
  let (handle, rest) ← tagHandle? (dropSpaces cs)
  if rest.head? == some ' ' then
    let (leading, rest) ← tagBody? (dropSpaces rest)
    return (.handle handle leading, rest)
  else none

/-- A directive behind its percent sign, and what follows.  One of another name takes the whole
line. -/
def directiveText? (cs : List Char) : Option (Directive × List Char) := do
  let (name, rest) := cs.span isNameChar
  if name.isEmpty || !atGap rest then none
  else
    let (d, rest) ←
      if name == "YAML".toList then versionDirective? rest
      else if name == "TAG".toList then handleDirective? rest
      else some (.other, rest.dropWhile fun c => !isBreak c)
    if atGap rest then some (d, rest) else none

/-! ### Scanning -/

namespace Scanner

/-- An anchor or an alias behind its mark. -/
def name (s : Scanner) (token : String → Token) : Option Scanner := do
  let s ← s.rememberKey
  let (name, rest) := (s.rest.drop 1).span isNameChar
  if name.isEmpty || !nameEnds rest then none
  else return ({ s with keyAllowed := false }.skipTo rest).push (token (String.ofList name))

/-- A tag. -/
def tag (s : Scanner) : Option Scanner := do
  let s ← s.rememberKey
  let (t, rest) ← tagText? s.rest
  if atGap rest then return ({ s with keyAllowed := false }.skipTo rest).push t else none

/-- A directive. -/
def directive (s : Scanner) : Option Scanner := do
  let s ← (s.unwind (-1)).forgetKey
  let (d, rest) ← directiveText? (s.rest.drop 1)
  let s ← ({ s with keyAllowed := false }.skipTo rest).restOfLine
  return s.push (.directive d)

end Scanner

end ForumMarkup.Yaml
