/-
**Paths.**

A path is a list of names below the root directory or below the directory in use.  Reading a path
drops empty names and single points, so that a path has one written form; two points stay, because
what they lead to depends on the directories.

Main definitions:

* `ForumMarkup.Path` — paths;
* `ForumMarkup.Path.ofString`, `ForumMarkup.Path.shown` — reading and writing;
* `ForumMarkup.Path.name`, `ForumMarkup.Path.suffix` — the last name, and its ending;
* `ForumMarkup.Path.absolute` — the names of a path from the root on, with two points resolved.
-/

set_option autoImplicit false

namespace ForumMarkup

/-- A path.  The root is empty for a relative path; a root of two slashes is kept as it is. -/
structure Path where
  root : String := ""
  names : List String
deriving DecidableEq, Repr, Inhabited

namespace Path

/-! ### Reading and writing -/

/-- The pieces of a text between slashes. -/
def pieces : List Char → List (List Char)
  | [] => [[]]
  | c :: cs =>
    if c == '/' then [] :: pieces cs
    else match pieces cs with
      | [] => [[c]]
      | p :: ps => (c :: p) :: ps

/-- The root of a written path. -/
def rootOf : List Char → String
  | '/' :: '/' :: '/' :: _ => "/"
  | '/' :: '/' :: _ => "//"
  | '/' :: _ => "/"
  | _ => ""

/-- The path of a text. -/
def ofString (s : String) : Path :=
  { root := rootOf s.toList
    names := (((pieces s.toList).map String.ofList).filter fun n => n != "" && n != ".") }

/-- The written form of a path. -/
def shown (p : Path) : String :=
  if p.root.isEmpty && p.names.isEmpty then "." else p.root ++ "/".intercalate p.names

/-- Whether a path begins at the root directory. -/
def isAbsolute (p : Path) : Bool :=
  !p.root.isEmpty

/-! ### Parts -/

/-- The last name of a path. -/
def name (p : Path) : String :=
  p.names.getLast?.getD ""

/-- The ending of a name from its last point on; a point at either end of the name begins none. -/
def suffixOf (cs : List Char) : List Char :=
  let ending := cs.reverse.takeWhile fun c => c != '.'
  if ending.isEmpty || cs.length ≤ ending.length + 1 then [] else '.' :: ending.reverse

/-- The ending of the last name of a path. -/
def suffix (p : Path) : String :=
  String.ofList (suffixOf p.name.toList)

/-- A path with one more name. -/
def child (p : Path) (name : String) : Path :=
  { p with names := p.names ++ [name] }

/-! ### Absolute names -/

/-- Takes the names of a path in order, each pair of points taking the name before it away. -/
def resolveFrom : (behind : List String) → List String → List String
  | behind, [] => behind.reverse
  | behind, n :: ns =>
    if n == ".." then resolveFrom behind.tail ns else resolveFrom (n :: behind) ns

/-- The names of a path from the root on, for a directory in use. -/
def absolute (p : Path) (directory : List String) : List String :=
  resolveFrom [] (if p.isAbsolute then p.names else directory ++ p.names)

/-- The path of a list of names from the root on. -/
def ofNames (names : List String) : Path :=
  { root := "/", names := names }

end Path

end ForumMarkup
