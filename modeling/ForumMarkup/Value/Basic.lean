import ForumMarkup.Number.Shortest
import ForumMarkup.Text.Digit
import ForumMarkup.Text.Point
/-
**Values.**

Document trees carry properties of any shape: the parser that wrote a tree may attach null, numbers,
text, lists and objects under any name.  The module holds that data together with the readings of it
that the rest of the library uses: whether a value counts as given, what it is called in messages,
and how it is shown.  A text in which a surrogate stands alone is a value too; it is taken for a
text everywhere, with the replacement character in place of the surrogate.

Main definitions:

* `ForumMarkup.Value` — the data; objects keep the order of their entries and have no name twice;
* `ForumMarkup.Value.truthy` — null, false, zeros and empty text, lists and objects count as absent;
* `ForumMarkup.Value.typeName` — the name of a value's type in messages;
* `ForumMarkup.Value.asText?`, `ForumMarkup.Value.ofPoints` — the text that a value is, and the
  value of a list of code points;
* `ForumMarkup.Value.shown`, `ForumMarkup.Value.quoted` — a value as plain text, and in the notation
  that quotes text;
* `ForumMarkup.Value.isShowable` — whether a value can be shown at all: none of its integers may
  have more digits than the limit.
-/

set_option autoImplicit false

namespace ForumMarkup

/-- A value as the notation of document trees can express it. -/
inductive Value
  | null
  | bool (b : Bool)
  | int (n : Int)
  | float (x : Binary64)
  | text (s : String)
  | illFormed (t : Text.IllFormed)
  | list (items : List Value)
  | object (entries : List (String × Value))
deriving Repr, Inhabited

namespace Value

/-! ### Equality -/

mutual
/-- Whether two values are the same, entry order included. -/
def same : Value → Value → Bool
  | .null, .null => true
  | .bool a, .bool b => a == b
  | .int a, .int b => a == b
  | .float a, .float b => decide (a = b)
  | .text a, .text b => a == b
  | .illFormed a, .illFormed b => decide (a = b)
  | .list as, .list bs => sameItems as bs
  | .object as, .object bs => sameEntries as bs
  | _, _ => false
/-- Whether two lists of values are the same. -/
def sameItems : List Value → List Value → Bool
  | [], [] => true
  | a :: as, b :: bs => same a b && sameItems as bs
  | _, _ => false
/-- Whether two lists of entries are the same. -/
def sameEntries : List (String × Value) → List (String × Value) → Bool
  | [], [] => true
  | (j, a) :: as, (k, b) :: bs => j == k && same a b && sameEntries as bs
  | _, _ => false
end

instance : BEq Value := ⟨same⟩

/-! ### Readings -/

/-- A value counts as given unless it is null, false, a zero or empty. -/
def truthy : Value → Bool
  | .null => false
  | .bool b => b
  | .int n => n != 0
  | .float x => !x.isZero
  | .text s => !s.isEmpty
  | .illFormed _ => true
  | .list items => !items.isEmpty
  | .object entries => !entries.isEmpty

/-- The name of a value's type in messages. -/
def typeName : Value → String
  | .null => "NoneType"
  | .bool _ => "bool"
  | .int _ => "int"
  | .float _ => "float"
  | .text _ => "str"
  | .illFormed _ => "str"
  | .list _ => "list"
  | .object _ => "dict"

/-- The text that a value is. -/
def asText? : Value → Option String
  | .text s => some s
  | .illFormed t => some t.image
  | _ => none

/-- The code points of the text that a value is. -/
def points? : Value → Option (List Text.Point)
  | .text s => some (Text.pointsOf s)
  | .illFormed t => some t.points
  | _ => none

/-- The value of a list of code points. -/
def ofPoints (points : List Text.Point) : Value :=
  if h : points.any Text.Point.isSurrogate = true then .illFormed ⟨points, h⟩
  else .text (Text.imageOf points)

/-- The integer that a value counts as: integers count as themselves, truth values as zero and
one. -/
def integer? : Value → Option Int
  | .int n => some n
  | .bool b => some (if b then 1 else 0)
  | _ => none

/-- Whether a value equals the number one, in any of its spellings. -/
def isOne : Value → Bool
  | .int n => n == 1
  | .bool b => b
  | .float x => decide (x = Binary64.one)
  | _ => false

/-! ### Showing -/

mutual
/-- A value in the notation that quotes text. -/
def quoted : Value → String
  | .null => "None"
  | .bool b => if b then "True" else "False"
  | .int n => toString n
  | .float x => x.text
  | .text s => Text.quoted s
  | .illFormed t => t.quoted
  | .list items => "[" ++ ", ".intercalate (quotedItems items) ++ "]"
  | .object entries => "\x7b" ++ ", ".intercalate (quotedEntries entries) ++ "\x7d"
/-- The quoted forms of the items of a list. -/
def quotedItems : List Value → List String
  | [] => []
  | v :: vs => quoted v :: quotedItems vs
/-- The quoted forms of the entries of an object. -/
def quotedEntries : List (String × Value) → List String
  | [] => []
  | (k, v) :: rest => (Text.quoted k ++ ": " ++ quoted v) :: quotedEntries rest
end

/-- A value as plain text: text stands for itself, everything else is shown in the quoting
notation. -/
def shown (v : Value) : String :=
  match v with
  | .text s => s
  | .illFormed t => t.image
  | v => v.quoted

mutual
/-- Whether a value can be shown: no integer in it has too many digits. -/
def isShowable (v : Value) (limit? : Option Nat := Text.digitLimit?) : Bool :=
  match v with
  | .int n => Text.canShow n limit?
  | .list items => showableItems limit? items
  | .object entries => showableEntries limit? entries
  | _ => true
/-- Whether all items of a list can be shown. -/
def showableItems (limit? : Option Nat) : List Value → Bool
  | [] => true
  | v :: vs => isShowable v limit? && showableItems limit? vs
/-- Whether the values of all entries of an object can be shown. -/
def showableEntries (limit? : Option Nat) : List (String × Value) → Bool
  | [] => true
  | (_, v) :: rest => isShowable v limit? && showableEntries limit? rest
end

end Value

/-! ### Entries -/

/-- The value under a name. -/
def lookupEntry {α : Type} (name : String) : List (String × α) → Option α
  | [] => none
  | (k, v) :: rest => if k == name then some v else lookupEntry name rest

/-- Puts a value under a name: in the place of an earlier value of that name, or else at the end. -/
def putEntry {α : Type} (name : String) (v : α) : List (String × α) → List (String × α)
  | [] => [(name, v)]
  | (k, w) :: rest => if k == name then (k, v) :: rest else (k, w) :: putEntry name v rest

/-- Entries without the one of a given name. -/
def dropEntry {α : Type} (name : String) : List (String × α) → List (String × α)
  | [] => []
  | (k, w) :: rest => if k == name then rest else (k, w) :: dropEntry name rest

end ForumMarkup
