import ForumMarkup.Storage.Path
import ForumMarkup.Text.Quoted
import ForumMarkup.Value.Basic
/-
**Files.**

The state of a file system is a tree of directories with files of bytes, and the uses of them that
the system refuses.  A path is followed from name to name; each name but the last has to lead to a
directory, and a name is looked up only in a directory that may be searched.

Main definitions:

* `ForumMarkup.FileNode` — a file, or a directory with what is below it;
* `ForumMarkup.Access`, `ForumMarkup.FileTree` — the uses of files and directories, and the state of
  a file system;
* `ForumMarkup.StorageFault` — the reasons why a path cannot be used, with the texts that describe
  them;
* `ForumMarkup.FileTree.locate` — what a path leads to;
* `ForumMarkup.FileTree.read`, `ForumMarkup.FileTree.write`, `ForumMarkup.FileTree.openToAppend`,
  `ForumMarkup.FileTree.extend` — the contents of a file;
* `ForumMarkup.FileTree.stat` — whether a path leads to anything, and to a file.
-/

set_option autoImplicit false

namespace ForumMarkup

/-! ### Trees -/

/-- A file, or a directory with what is below it. -/
inductive FileNode
  | file (bytes : List UInt8)
  | directory (entries : List (String × FileNode))

instance : Inhabited FileNode := ⟨.directory []⟩

/-- The uses of files and directories. -/
inductive Access
  | read
  /-- For a directory: making a file in it. -/
  | write
  /-- For a directory: looking up names in it. -/
  | search
deriving DecidableEq, Repr

/-- The state of a file system: what there is, and which uses of what stands at a place the system
refuses. -/
structure FileTree where
  root : FileNode
  refuses : Access → List String → Bool := fun _ _ => false

/-- A file system with some entries below the root, all of which can be used. -/
def FileTree.directory (entries : List (String × FileNode)) : FileTree :=
  { root := .directory entries }

instance : Inhabited FileTree := ⟨.directory []⟩

/-! ### Faults -/

/-- The reasons why a path cannot be used. -/
inductive StorageFault
  /-- A name leads to nothing. -/
  | notFound
  /-- A name stands below a file. -/
  | notDirectory
  /-- The path leads to a directory where a file is needed. -/
  | isDirectory
  /-- A name has more than 255 bytes, or the path more than 4095. -/
  | nameTooLong
  /-- The access is not allowed. -/
  | denied
  /-- The path holds a null character and is not even looked up. -/
  | nullCharacter
deriving DecidableEq, Repr

namespace StorageFault

/-- The number and the words by which the system describes a fault.  A path that is not looked up
has none. -/
def description? : StorageFault → Option (Nat × String)
  | .notFound => some (2, "No such file or directory")
  | .notDirectory => some (20, "Not a directory")
  | .isDirectory => some (21, "Is a directory")
  | .nameTooLong => some (36, "File name too long")
  | .denied => some (13, "Permission denied")
  | .nullCharacter => none

/-- The description of a fault with a path. -/
def message (fault : StorageFault) (path : String) : String :=
  match fault.description? with
  | some (code, words) => "[Errno " ++ toString code ++ "] " ++ words ++ ": " ++ Text.quoted path
  | none => "embedded null byte"

end StorageFault

/-! ### Places -/

namespace FileNode

/-- What stands at a place, given by the names that lead there. -/
def at? : FileNode → List String → Option FileNode
  | t, [] => some t
  | .file _, _ :: _ => none
  | .directory entries, n :: ns =>
    match lookupEntry n entries with
    | none => none
    | some t => t.at? ns

/-- What there is, with something else at a place.  Directories on the way are made if they are
missing, and files on the way give way to them. -/
def put (t : FileNode) (place : List String) (new : FileNode) : FileNode :=
  match place with
  | [] => new
  | n :: ns =>
    let entries := match t with
      | .file _ => []
      | .directory entries => entries
    let below := (lookupEntry n entries).getD (.directory [])
    .directory (putEntry n (below.put ns new) entries)
termination_by place.length

mutual
/-- The files that there are, each with the names that lead to it, in the order of the entries. -/
def files : FileNode → List (List String × List UInt8)
  | .file bytes => [([], bytes)]
  | .directory entries => filesOf entries
/-- The files below a list of entries. -/
def filesOf : List (String × FileNode) → List (List String × List UInt8)
  | [] => []
  | (n, t) :: rest => (t.files.map fun f => (n :: f.1, f.2)) ++ filesOf rest
end

end FileNode

namespace FileTree

/-- What stands at a place, given by the names from the root on. -/
def at? (t : FileTree) (place : List String) : Option FileNode :=
  t.root.at? place

/-- The files that there are, each with the names that lead to it. -/
def files (t : FileTree) : List (List String × List UInt8) :=
  t.root.files

/-- The state with something else at a place. -/
def put (t : FileTree) (place : List String) (new : FileNode) : FileTree :=
  { t with root := t.root.put place new }

/-! ### Following paths -/

/-- What a path leads to. -/
inductive Location
  | file (place : List String) (bytes : List UInt8)
  | directory (place : List String)
  /-- Nothing, but the directory for it exists. -/
  | missing (place : List String)
deriving Repr

/-- The number of bytes of a name. -/
def nameSize (n : String) : Nat := n.utf8ByteSize

/-- Follows names from a directory on, which is given by its own names, the last one first. -/
def follow (t : FileTree) : (behind : List String) → List String → Except StorageFault Location
  | behind, [] =>
    match t.at? behind.reverse with
    | none => .error .notFound
    | some (.file bytes) => .ok (.file behind.reverse bytes)
    | some (.directory _) => .ok (.directory behind.reverse)
  | behind, n :: ns =>
    match t.at? behind.reverse with
    | none => .error .notFound
    | some (.file _) => .error .notDirectory
    | some (.directory entries) =>
      if t.refuses .search behind.reverse then .error .denied
      else if n == ".." then follow t behind.tail ns
      else if nameSize n > 255 then .error .nameTooLong
      else match lookupEntry n entries, ns with
        | none, [] => .ok (.missing (n :: behind).reverse)
        | none, _ :: _ => .error .notFound
        | some _, ns => follow t (n :: behind) ns

/-- What a path leads to, from a directory in use. -/
def locate (t : FileTree) (directory : List String) (p : Path) : Except StorageFault Location :=
  if p.names.any fun n => n.toList.contains '\x00' then .error .nullCharacter
  else if p.shown.utf8ByteSize > 4095 then .error .nameTooLong
  else t.follow (if p.isAbsolute then [] else directory.reverse) p.names

/-! ### Contents -/

/-- A result, unless the system refuses a use of what stands at a place. -/
def permit {α : Type} (t : FileTree) (access : Access) (place : List String)
    (r : Except StorageFault α) : Except StorageFault α :=
  if t.refuses access place then .error .denied else r

/-- The contents of the file that a path leads to. -/
def read (t : FileTree) (directory : List String) (p : Path) : Except StorageFault (List UInt8) :=
  match t.locate directory p with
  | .error fault => .error fault
  | .ok (.file place bytes) => t.permit .read place (.ok bytes)
  | .ok (.directory place) => t.permit .read place (.error .isDirectory)
  | .ok (.missing _) => .error .notFound

/-- The place of the file that a path leads to or can lead to, and its contents so far, if the
system lets it be written. -/
def target (t : FileTree) (directory : List String) (p : Path) :
    Except StorageFault (List String × List UInt8) :=
  match t.locate directory p with
  | .error fault => .error fault
  | .ok (.file place bytes) => t.permit .write place (.ok (place, bytes))
  | .ok (.directory _) => .error .isDirectory
  | .ok (.missing place) => t.permit .write place.dropLast (.ok (place, []))

/-- The state with new contents in the file that a path leads to. -/
def write (t : FileTree) (directory : List String) (p : Path) (bytes : List UInt8) :
    Except StorageFault FileTree := do
  let (place, _) ← t.target directory p
  return t.put place (.file bytes)

/-- The state with the file that a path leads to, opened to write at its end. -/
def openToAppend (t : FileTree) (directory : List String) (p : Path) :
    Except StorageFault FileTree := do
  let (place, before) ← t.target directory p
  return t.put place (.file before)

/-- The state with more contents at the end of a file that is open. -/
def extend (t : FileTree) (place : List String) (bytes : List UInt8) : FileTree :=
  match t.at? place with
  | some (.file before) => t.put place (.file (before ++ bytes))
  | _ => t

/-! ### Asking -/

/-- What a path leads to, as far as a question about it goes. -/
inductive Status
  | absent
  | file
  | directory
deriving DecidableEq, Repr

/-- What a path leads to.  A path that leads to nothing is no fault, unless a name is too long or
cannot be looked up. -/
def stat (t : FileTree) (directory : List String) (p : Path) : Except StorageFault Status :=
  match t.locate directory p with
  | .ok (.file _ _) => .ok .file
  | .ok (.directory _) => .ok .directory
  | .ok (.missing _) => .ok .absent
  | .error .notFound => .ok .absent
  | .error .notDirectory => .ok .absent
  | .error .nullCharacter => .ok .absent
  | .error fault => .error fault

/-- Whether a path leads to a file. -/
def isFile (t : FileTree) (directory : List String) (p : Path) : Except StorageFault Bool := do
  return (← t.stat directory p) = .file

end FileTree

end ForumMarkup
