import ForumMarkup.Value.Basic
import ForumMarkup.Value.Calendar
/-
**Settings.**

Configuration files can express more than document trees: a scalar may be a day, a time or a string
of bytes, there are sets and lists of pairs, and a mapping may have keys of any type.  Keys are
compared by number: one, true and 1.0 are the same key.

Main definitions:

* `ForumMarkup.Setting` — the data of a configuration file;
* `ForumMarkup.Setting.ofValue` — every value is a setting;
* `ForumMarkup.Setting.sameKey`, `ForumMarkup.putKey` — equality of keys, and the entry of a mapping
  under a key.
-/

set_option autoImplicit false

namespace ForumMarkup

/-- What a configuration file can express. -/
inductive Setting
  | null
  | bool (b : Bool)
  | int (n : Int)
  | float (x : Binary64)
  | text (s : String)
  | day (d : Day)
  | clock (c : Clock)
  | moment (m : Moment)
  | bytes (bs : List UInt8)
  | list (items : List Setting)
  | pair (first second : Setting)
  | set (members : List Setting)
  | mapping (entries : List (Setting × Setting))
deriving Repr, Inhabited

namespace Setting

mutual
/-- A value as a setting. -/
def ofValue : Value → Setting
  | .null => .null
  | .bool b => .bool b
  | .int n => .int n
  | .float x => .float x
  | .text s => .text s
  | .illFormed t => .text t.image
  | .list items => .list (ofItems items)
  | .object entries => .mapping (ofEntries entries)
/-- The items of a list as settings. -/
def ofItems : List Value → List Setting
  | [] => []
  | v :: vs => ofValue v :: ofItems vs
/-- The entries of an object as entries of a mapping. -/
def ofEntries : List (String × Value) → List (Setting × Setting)
  | [] => []
  | (k, v) :: rest => (.text k, ofValue v) :: ofEntries rest
end

/-- A setting counts as given unless it is null, false, a zero or empty. -/
def truthy : Setting → Bool
  | .null => false
  | .bool b => b
  | .int n => n != 0
  | .float x => !x.isZero
  | .text s => !s.isEmpty
  | .day _ => true
  | .clock _ => true
  | .moment _ => true
  | .bytes bs => !bs.isEmpty
  | .list items => !items.isEmpty
  | .pair _ _ => true
  | .set members => !members.isEmpty
  | .mapping entries => !entries.isEmpty

/-- The name of a setting's type in messages. -/
def typeName : Setting → String
  | .null => "NoneType"
  | .bool _ => "bool"
  | .int _ => "int"
  | .float _ => "float"
  | .text _ => "str"
  | .day _ => "date"
  | .clock _ => "time"
  | .moment _ => "datetime"
  | .bytes _ => "bytes"
  | .list _ => "list"
  | .pair _ _ => "tuple"
  | .set _ => "set"
  | .mapping _ => "dict"

/-- The plain text of a day or a time. -/
def timeShown? : Setting → Option String
  | .day d => some d.shown
  | .clock c => some c.shown
  | .moment m => some m.shown
  | _ => none

/-! ### Keys -/

/-- The integer that a key counts as. -/
def keyInteger? : Setting → Option Int
  | .bool b => some (if b then 1 else 0)
  | .int n => some n
  | .float x => x.toInt?
  | _ => none

/-- Whether two settings are the same key. -/
def sameKey (a b : Setting) : Bool :=
  match keyInteger? a, keyInteger? b with
  | some m, some n => m == n
  | none, none =>
    match a, b with
    | .null, .null => true
    | .float x, .float y => decide (x = y)
    | .text s, .text t => s == t
    | .day d, .day e => decide (d = e)
    | .clock c, .clock d => decide (c = d)
    | .moment m, .moment n => m.same n
    | .bytes bs, .bytes cs => decide (bs = cs)
    | _, _ => false
  | _, _ => false

/-- Whether a setting can be a key at all: lists, sets and mappings cannot, and pairs stand in lists
only. -/
def isKey : Setting → Bool
  | .list _ => false
  | .pair _ _ => false
  | .set _ => false
  | .mapping _ => false
  | _ => true

/-- The entry of a mapping under a name. -/
def lookup? (name : String) : Setting → Option Setting
  | .mapping entries => (entries.find? fun e => sameKey e.1 (.text name)).map fun e => e.2
  | _ => none

end Setting

/-- Puts a setting under a key: in the place of an earlier setting of that key, or else at the
end. -/
def putKey (key v : Setting) : List (Setting × Setting) → List (Setting × Setting)
  | [] => [(key, v)]
  | (k, w) :: rest => if k.sameKey key then (k, v) :: rest else (k, w) :: putKey key v rest

end ForumMarkup
