import ForumMarkup.Config.Toml.Scalar
/-
**Reading TOML.**

A TOML text is a sequence of statements.  A statement is a key with its value, or the header of a
table, below which the keys of the following statements stand.  A header may name a table only once,
a table that is written inline or an array cannot be extended later, and no value is overwritten.

Main definitions:

* `ForumMarkup.Toml.value` — a value;
* `ForumMarkup.Toml.alter` — a change of the table that a key leads to;
* `ForumMarkup.Toml.State`, `ForumMarkup.Toml.statements` — the tables so far, and the statements;
* `ForumMarkup.Toml.read` — the entries of a whole text.
-/

set_option autoImplicit false

namespace ForumMarkup.Toml

/-- The entries of a table. -/
abbrev Table := List (Setting × Setting)

/-! ### Tables -/

/-- The entry of a table under a name. -/
def entryOf (name : String) (t : Table) : Option Setting :=
  (Setting.mapping t).lookup? name

/-- A table with a change in the table that a key leads to.  Missing tables on the way are made.  A
list of tables stands for its last table, if `throughLists` is set. -/
def alter (throughLists : Bool) (change : Table → Option Table) : Key → Table → Option Table
  | [], t => change t
  | k :: ks, t =>
    match entryOf k t with
    | none => (alter throughLists change ks []).map fun inner => putKey (.text k) (.mapping inner) t
    | some (.mapping inner) =>
      (alter throughLists change ks inner).map fun inner => putKey (.text k) (.mapping inner) t
    | some (.list items) =>
      if throughLists then
        match items.getLast? with
        | some (.mapping inner) =>
          (alter throughLists change ks inner).map fun inner =>
            putKey (.text k) (.list (items.dropLast ++ [.mapping inner])) t
        | _ => none
      else none
    | some _ => none

/-- Adds an entry to a table that has none of that name. -/
def addEntry (name : String) (v : Setting) (t : Table) : Option Table :=
  match entryOf name t with
  | none => some (putKey (.text name) v t)
  | some _ => none

/-- Whether one of a list of keys leads to a key or through it. -/
def covered (frozen : List Key) (k : Key) : Bool :=
  frozen.any fun f => f.isPrefixOf k

/-- Whether a value cannot be extended later. -/
def isClosed : Setting → Bool
  | .list _ => true
  | .mapping _ => true
  | _ => false

/-! ### Values -/

mutual
/-- A value, and what follows it. -/
def value : (fuel : Nat) → List Char → Except Fault (Setting × List Char)
  | 0, _ => .error .malformed
  | fuel + 1, cs =>
    match cs with
    | 't' :: 'r' :: 'u' :: 'e' :: r => .ok (.bool true, r)
    | 'f' :: 'a' :: 'l' :: 's' :: 'e' :: r => .ok (.bool false, r)
    | '[' :: rest => do
      let rest ← wellFormed (skipWide (rest.length + 1) rest)
      let (items, r) ← elements fuel rest
      return (.list items, r)
    | '\x7b' :: rest =>
      match skipGap rest with
      | '\x7d' :: r => .ok (.mapping [], r)
      | rest => do
        let (t, r) ← members fuel [] [] rest
        return (.mapping t, r)
    | cs =>
      match text cs, time? cs with
      | some (s, r), _ => .ok (.text s, r)
      | none, some (found?, r) => wellFormed (found?.map fun found => (found, r))
      | none, none => number cs
/-- The items of an array up to its bracket, and what follows it. -/
def elements : (fuel : Nat) → List Char → Except Fault (List Setting × List Char)
  | 0, _ => .error .malformed
  | fuel + 1, cs =>
    match cs with
    | ']' :: r => .ok ([], r)
    | cs => do
      let (v, r) ← value fuel cs
      let r ← wellFormed (skipWide (r.length + 1) r)
      match r with
      | ']' :: r => return ([v], r)
      | ',' :: r => do
        let r ← wellFormed (skipWide (r.length + 1) r)
        let (vs, r) ← elements fuel r
        return (v :: vs, r)
      | _ => .error .malformed
/-- The entries of an inline table up to its brace, added to those before, and what follows it. -/
def members : (fuel : Nat) → Table → (frozen : List Key) → List Char →
    Except Fault (Table × List Char)
  | 0, _, _, _ => .error .malformed
  | fuel + 1, t, frozen, cs => do
    let (k, r) ← wellFormed (key (cs.length + 1) cs)
    match r with
    | '=' :: r => do
      let (v, r) ← value fuel (skipGap r)
      if covered frozen k then .error .malformed
      else
        let t ← wellFormed (alter false (addEntry (k.getLast?.getD "") v) k.dropLast t)
        match skipGap r with
        | '\x7d' :: r => return (t, r)
        | ',' :: r => members fuel t (if isClosed v then k :: frozen else frozen) (skipGap r)
        | _ => .error .malformed
    | _ => .error .malformed
end

/-! ### Statements -/

/-- The tables so far, the header in force, and what later statements must not do: `named` tables
must not be named again, and nothing below a `frozen` key can be changed.  Tables that keys led
through become `named` at the next header. -/
structure State where
  table : Table := []
  header : Key := []
  named : List Key := []
  frozen : List Key := []
  pending : List Key := []

/-- The beginnings of a key from its first part on, itself included. -/
def beginnings (k : Key) : List Key :=
  (List.range k.length).map fun i => k.take (i + 1)

namespace State

/-- The state after a key with its value. -/
def assign (s : State) (k : Key) (v : Setting) : Option State :=
  let through := (beginnings k.dropLast).map fun b => s.header ++ b
  let parent := s.header ++ k.dropLast
  if through.any fun b => s.named.contains b then none
  else if covered s.frozen parent then none
  else do
    let table ← alter true (addEntry (k.getLast?.getD "") v) parent s.table
    return { s with
      table := table
      pending := s.pending ++ through
      frozen := if isClosed v then (s.header ++ k) :: s.frozen else s.frozen }

/-- The state in which the tables that keys led through count as named. -/
def settle (s : State) : State :=
  { s with named := s.named ++ s.pending, pending := [] }

/-- The state after the header of a table. -/
def openTable (s : State) (k : Key) : Option State :=
  if s.named.contains k || covered s.frozen k then none
  else do
    let table ← alter true some k s.table
    return { s with table := table, header := k, named := k :: s.named }

/-- Adds an empty table to a list of tables. -/
def addTable (name : String) (t : Table) : Option Table :=
  match entryOf name t with
  | none => some (putKey (.text name) (.list [.mapping []]) t)
  | some (.list items) => some (putKey (.text name) (.list (items ++ [.mapping []])) t)
  | some _ => none

/-- The state after the header of the next table of a list.  What was forbidden below the key no
longer is. -/
def openListTable (s : State) (k : Key) : Option State :=
  if covered s.frozen k then none
  else do
    let table ← alter true (addTable (k.getLast?.getD "")) k.dropLast s.table
    return { s with
      table := table
      header := k
      named := k :: s.named.filter fun f => !k.isPrefixOf f
      frozen := s.frozen.filter fun f => !k.isPrefixOf f }

end State

/-- The state after one statement, and what follows it.  A comment or nothing is no change. -/
def statement (s : State) (cs : List Char) : Except Fault (State × List Char) :=
  match cs with
  | '[' :: '[' :: rest => do
    let (k, r) ← wellFormed (key (rest.length + 1) (skipGap rest))
    match r with
    | ']' :: ']' :: r => return (← wellFormed (s.settle.openListTable k), skipGap r)
    | _ => .error .malformed
  | '[' :: rest => do
    let (k, r) ← wellFormed (key (rest.length + 1) (skipGap rest))
    match r with
    | ']' :: r => return (← wellFormed (s.settle.openTable k), skipGap r)
    | _ => .error .malformed
  | '#' :: rest => .ok (s, '#' :: rest)
  | cs => do
    let (k, r) ← wellFormed (key (cs.length + 1) cs)
    match r with
    | '=' :: r => do
      let (v, r) ← value (r.length + 1) (skipGap r)
      return (← wellFormed (s.assign k v), skipGap r)
    | _ => .error .malformed

/-- The state after all statements. -/
def statements : (fuel : Nat) → State → List Char → Except Fault State
  | 0, _, _ => .error .malformed
  | fuel + 1, s, cs =>
    match skipGap cs with
    | [] => .ok s
    | '\n' :: rest => statements fuel s rest
    | cs => do
      let (s, r) ← statement s cs
      match ← wellFormed (skipComment r) with
      | [] => return s
      | '\n' :: rest => statements fuel s rest
      | _ => .error .malformed

/-- A text in which a carriage return and a line feed are one line feed. -/
def joinLineEnds : List Char → List Char
  | '\r' :: '\n' :: rest => '\n' :: joinLineEnds rest
  | c :: rest => c :: joinLineEnds rest
  | [] => []

/-- The entries of a whole text. -/
def read (source : List Char) : Except Fault Table :=
  let cs := joinLineEnds source
  (statements (cs.length + 1) {} cs).map State.table

end ForumMarkup.Toml
