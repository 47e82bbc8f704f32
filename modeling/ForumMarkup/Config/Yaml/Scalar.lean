import ForumMarkup.Config.Yaml.Fault
import ForumMarkup.Config.Yaml.Form
import ForumMarkup.Text.Base64
import ForumMarkup.Number.Decimal
import ForumMarkup.Text.Case
import ForumMarkup.Value.Setting
/-
**Scalars of YAML.**

A tag says what a node is.  The text of a scalar is read as its tag says, whether the tag is written
or follows from the form of a plain scalar.  A text that its tag does not fit is at fault.

Main definitions:

* `ForumMarkup.Yaml.Tag`, `ForumMarkup.Yaml.Tag.ofName`, `ForumMarkup.Yaml.Tag.ofForm` — the tags;
* `ForumMarkup.Yaml.scalarSetting` — the setting of a scalar with a tag.
-/

set_option autoImplicit false

namespace ForumMarkup.Yaml

open Numeral

/-! ### Tags -/

/-- What a node is.  `pairs` is a list of mappings with one entry each, `merge` the key under which
another mapping is merged, `equals` the equals sign, which only a key can be. -/
inductive Tag
  | null
  | bool
  | int
  | float
  | time
  | text
  | binary
  | merge
  | equals
  | list
  | pairs
  | mapping
  | set
  | unknown
deriving DecidableEq, Repr

/-- The beginning that the names of all known tags have. -/
def standardNames : String := "tag:yaml.org,2002:"

/-- The ends of the names of the known tags. -/
def tagNames : List (String × Tag) :=
  [("null", .null), ("bool", .bool), ("int", .int), ("float", .float), ("timestamp", .time),
    ("str", .text), ("binary", .binary), ("merge", .merge), ("value", .equals), ("seq", .list),
    ("omap", .pairs), ("pairs", .pairs), ("map", .mapping), ("set", .set)]

/-- Whether nodes with a tag are made of other nodes. -/
def Tag.isCollection (tag : Tag) : Bool :=
  [Tag.list, .pairs, .mapping, .set].contains tag

/-- The tag of a name. -/
def Tag.ofName (name : String) : Tag :=
  match tagNames.find? fun e => standardNames ++ e.1 == name with
  | some e => e.2
  | none => .unknown

/-- The tag that follows from the form of a scalar. -/
def Tag.ofForm (s : String) : Tag :=
  if boolForms.contains s then .bool
  else if isFloatForm s.toList then .float
  else if isIntegerForm s.toList then .int
  else if s == "<<" then .merge
  else if nullForms.contains s then .null
  else if isTimeForm s.toList then .time
  else if s == "=" then .equals
  else if s == "!" || s == "&" || s == "*" then .unknown
  else .text

/-! ### Integers -/

/-- The letter that may stand after a zero in front of the digits of a base. -/
def baseLetter? : Nat → Option Char
  | 2 => some 'b'
  | 8 => some 'o'
  | 16 => some 'x'
  | _ => none

/-- The digits of a base without the zero and the letter in front of them. -/
def withoutBase (base : Nat) : List Char → List Char
  | '0' :: c :: rest =>
    if baseLetter? base == some c.toLower then rest else '0' :: c :: rest
  | cs => cs

/-- The integer that digits of a base denote, with an optional sign and padding. -/
def basedInteger? (base : Nat) (cs : List Char) : Option Int :=
  let (negative, body) := sign (Text.trimPadding cs)
  let ds := withoutBase base body
  if !ds.isEmpty && ds.all (isDigitOf base) then some (signed negative (numberOf base ds)) else none

/-- The integer that groups of sixty denote, the last one first. -/
def sexagesimal? (lastFirst : List (List Char)) : Option Int := do
  let ns ← lastFirst.mapM Text.readInteger?
  return ((List.range ns.length).zip ns).foldl (fun total p => total + p.2 * Int.pow 60 p.1) 0

/-- The integer of a text without a sign and low lines. -/
def magnitude? (cs : List Char) : Option Int :=
  match cs with
  | '0' :: 'b' :: ds => basedInteger? 2 ds
  | '0' :: 'x' :: ds => basedInteger? 16 ds
  | '0' :: ds => basedInteger? 8 ('0' :: ds)
  | cs =>
    if cs.contains ':' then sexagesimal? (groups cs).reverse else Text.readInteger? cs

/-- The integer of a text. -/
def integerOf (s : String) : Except Fault Int :=
  let (negative, body) := sign (s.toList.filter fun c => c != '_')
  if body.isEmpty then .error .emptyNumber
  else (wellFormed (magnitude? body)).map fun n => if negative then -n else n

/-! ### Numbers with a point -/

/-- A number times a power of sixty, which has to be in the range of floating-point numbers. -/
def sexagesimalPart (power : Nat) (x : Binary64) : Except Fault Binary64 :=
  match Binary64.ofInt? (Int.pow 60 power) with
  | some weight => .ok (x.mul weight)
  | none => .error .overflow

/-- The number that groups of sixty denote, the last one first.  Every product and every sum is
rounded. -/
def sexagesimalFloat (lastFirst : List (List Char)) : Except Fault Binary64 := do
  let xs ← wellFormed (lastFirst.mapM Decimal.read?)
  let parts ← ((List.range xs.length).zip xs).mapM fun p => sexagesimalPart p.1 p.2
  return parts.foldl Binary64.add (.zero false)

/-- The number of a text in lower case without a sign and low lines. -/
def floatMagnitude (cs : List Char) : Except Fault Binary64 :=
  if cs == ".inf".toList then .ok (.infinite false)
  else if cs == ".nan".toList then .ok .nan
  else if cs.contains ':' then sexagesimalFloat (groups cs).reverse
  else wellFormed (Decimal.read? cs)

/-- The number of a text. -/
def floatOf (s : String) : Except Fault Binary64 :=
  match (Text.lower s).toList.filter fun c => c != '_' with
  | [] => .error .emptyNumber
  | cs =>
    let (negative, body) := sign cs
    (floatMagnitude body).map fun x => if negative then x.negate else x

/-! ### Times -/

/-- The time of the given numbers; nothing for a day that is not in the calendar, a time that no
clock shows, and a clock that is a day ahead or more. -/
def TimeForm.setting? (t : TimeForm) : Option Setting := do
  let day ← Day.of? t.year t.month t.day
  match t.clock? with
  | none => return .day day
  | some (hour, minute, second, micro, ahead?) =>
    let clock ← Clock.of? hour minute second micro
    if (ahead?.getD 0).natAbs < 1440 then return .moment ⟨day, clock, ahead?⟩ else none

/-- The time of a text. -/
def timeOf (s : String) : Except Fault Setting :=
  match timeForm? s.toList with
  | none => .error .notTime
  | some t => wellFormed t.setting?

/-! ### Other scalars -/

/-- The truth value of a word; letters count alike in either case. -/
def boolOf (s : String) : Except Fault Bool :=
  let word := Text.lower s
  if ["yes", "true", "on"].contains word then .ok true
  else if ["no", "false", "off"].contains word then .ok false
  else .error .notBool

/-- The setting of a scalar with a tag. -/
def scalarSetting (tag : Tag) (s : String) : Except Fault Setting :=
  match tag with
  | .null => .ok .null
  | .bool => (boolOf s).map .bool
  | .int => (integerOf s).map .int
  | .float => (floatOf s).map .float
  | .time => timeOf s
  | .text => .ok (.text s)
  | .binary => do
    let cs ← wellFormed (if s.toList.all fun c => c.toNat < 128 then some s.toList else none)
    return .bytes (← wellFormed (Text.base64Decode? cs))
  | _ => .error .malformed

end ForumMarkup.Yaml
