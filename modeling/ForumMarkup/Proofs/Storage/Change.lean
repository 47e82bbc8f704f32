import ForumMarkup.Proofs.Value.Entry
import ForumMarkup.Storage.FileTree
/-
**Changes to a tree of files.**

What stands at a place of a tree is a file with its bytes or a directory; paths are followed by
these entries and by what the system refuses.  Writing a file changes the entry at one place, which
was a file or was missing from a directory, and no other entry, and the system refuses what it
refused before.  So a path leads where it led before, unless it leads to that place or through it.

Main definitions:

* `ForumMarkup.FileNode.Entry`, `ForumMarkup.FileTree.occupant?` — what stands at a place;
* `ForumMarkup.FileNode.HasRoom` — a place at which a file stands or can be made;
* `ForumMarkup.FileTree.Change` — **a file is written**: one entry is a file now, the others stay;
* `ForumMarkup.FileTree.Holds`, `ForumMarkup.FileTree.LeadsTo` — a path leads to a file, with some
  bytes or at some place;
* `ForumMarkup.FileTree.Rerouted` — how following a path changes when a file is written.

Main results:

* `ForumMarkup.FileTree.change_put` — putting a file where there is room is such a change;
* `ForumMarkup.FileTree.follow_nil`, `ForumMarkup.FileTree.follow_cons` — a path is followed by the
  entries;
* `ForumMarkup.FileTree.hasRoom_of_target` — there is room where a path can be written;
* `ForumMarkup.FileTree.write_ok`, `ForumMarkup.FileTree.extend_cases` — writing is such a change;
* `ForumMarkup.FileTree.Change.locate` — **a path leads where it led before**.
-/

set_option autoImplicit false

namespace ForumMarkup

namespace FileNode

/-! ### Entries -/

/-- What stands at a place of a tree. -/
inductive Entry
  | file (bytes : List UInt8)
  | directory
deriving DecidableEq

/-- What a tree is at its root. -/
def entry : FileNode → Entry
  | .file bytes => .file bytes
  | .directory _ => .directory

/-- What stands at a place. -/
def occupant? (t : FileNode) (place : List String) : Option Entry := (t.at? place).map entry

@[simp] theorem occupant?_nil (t : FileNode) : t.occupant? [] = some t.entry := by
  cases t <;> rfl

@[simp] theorem occupant?_file (bytes : List UInt8) (n : String) (ns : List String) :
    (FileNode.file bytes).occupant? (n :: ns) = none := rfl

theorem occupant?_directory (entries : List (String × FileNode)) (n : String) (ns : List String) :
    (FileNode.directory entries).occupant? (n :: ns) =
      (lookupEntry n entries).bind fun t => t.occupant? ns := by
  rw [occupant?, at?]
  cases lookupEntry n entries <;> rfl

theorem at?_append (t : FileNode) (ms ns : List String) :
    t.at? (ms ++ ns) = (t.at? ms).bind fun t => t.at? ns := by
  induction ms generalizing t with
  | nil => cases t <;> rfl
  | cons m ms ih =>
      cases t with
      | file bytes => rfl
      | directory entries =>
          rw [List.cons_append, at?, at?]
          cases lookupEntry m entries with
          | none => rfl
          | some t => exact ih t

/-! ### Room for a file -/

/-- A place at which a file stands, or a missing one in a directory. -/
def HasRoom (t : FileNode) (place : List String) : Prop :=
  (∃ bytes, t.occupant? place = some (.file bytes)) ∨
    t.occupant? place = none ∧ ∃ above n, place = above ++ [n] ∧ t.occupant? above = some .directory

/-- Below a name there is room in what stands under the name, or the name is missing. -/
theorem HasRoom.of_cons {entries : List (String × FileNode)} {n : String} {ns : List String}
    (h : (FileNode.directory entries).HasRoom (n :: ns)) :
    (∃ t, lookupEntry n entries = some t ∧ t.HasRoom ns) ∨
      lookupEntry n entries = none ∧ ns = [] := by
  rw [HasRoom, occupant?_directory] at h
  cases hn : lookupEntry n entries with
  | some t =>
      rw [hn] at h
      refine .inl ⟨t, rfl, ?_⟩
      rcases h with ⟨bytes, hbytes⟩ | ⟨hnone, above, m, heq, habove⟩
      · exact .inl ⟨bytes, hbytes⟩
      · cases above with
        | nil =>
            obtain ⟨-, rfl⟩ := List.cons.inj heq
            simp at hnone
        | cons k above =>
            obtain ⟨rfl, rfl⟩ := List.cons.inj heq
            rw [occupant?_directory, hn] at habove
            exact .inr ⟨hnone, above, m, rfl, habove⟩
  | none =>
      rw [hn] at h
      refine .inr ⟨rfl, ?_⟩
      rcases h with ⟨bytes, hbytes⟩ | ⟨-, above, m, heq, habove⟩
      · cases hbytes
      · cases above with
        | nil => exact (List.cons.inj heq).2
        | cons k above =>
            obtain ⟨rfl, rfl⟩ := List.cons.inj heq
            rw [occupant?_directory, hn] at habove
            cases habove

theorem not_hasRoom_file_cons {bytes : List UInt8} {n : String} {ns : List String} :
    ¬(FileNode.file bytes).HasRoom (n :: ns) := by
  rintro (⟨_, h⟩ | ⟨-, above, m, heq, habove⟩)
  · cases h
  · cases above with
    | nil => cases habove
    | cons k above => cases habove

/-! ### Putting a file -/

/-- The entries of a directory; a file has none. -/
def children : FileNode → List (String × FileNode)
  | .file _ => []
  | .directory entries => entries

theorem put_nil (t new : FileNode) : t.put [] new = new := by rw [put.eq_def]

theorem put_cons (t : FileNode) (n : String) (ns : List String) (new : FileNode) :
    t.put (n :: ns) new =
      .directory (putEntry n (((lookupEntry n t.children).getD (.directory [])).put ns new)
        t.children) := by
  rw [put.eq_def]
  cases t <;> rfl

/-- What is put at a place takes the place of what was put there before. -/
theorem put_put (t : FileNode) (place : List String) (new new' : FileNode) :
    (t.put place new).put place new' = t.put place new' := by
  induction place generalizing t with
  | nil => rw [put_nil, put_nil]
  | cons n ns ih =>
      rw [put_cons t, put_cons, put_cons t, children, lookupEntry_putEntry, if_pos rfl,
        Option.getD_some, ih, putEntry_putEntry]

theorem occupant?_put (t : FileNode) (place : List String) (new : FileNode) :
    (t.put place new).occupant? place = some new.entry := by
  induction place generalizing t with
  | nil => rw [put_nil, occupant?_nil]
  | cons n ns ih =>
      rw [put_cons, occupant?_directory, lookupEntry_putEntry, if_pos rfl]
      exact ih _

theorem occupant?_put_of_ne {t : FileNode} {place : List String} (h : t.HasRoom place)
    (bytes : List UInt8) {q : List String} (hq : q ≠ place) :
    (t.put place (.file bytes)).occupant? q = t.occupant? q := by
  induction place generalizing t q with
  | nil =>
      rw [put_nil]
      cases q with
      | nil => exact absurd rfl hq
      | cons m ms =>
          cases t with
          | file _ => rfl
          | directory entries =>
              rcases h with ⟨_, h⟩ | ⟨h, -⟩ <;> cases h
  | cons n ns ih =>
      cases t with
      | file _ => exact absurd h not_hasRoom_file_cons
      | directory entries =>
          rw [put_cons, children]
          cases q with
          | nil => rfl
          | cons m ms =>
              rw [occupant?_directory, occupant?_directory, lookupEntry_putEntry]
              by_cases hm : m = n
              · subst hm
                have hms : ms ≠ ns := fun e => hq (e ▸ rfl)
                rw [if_pos rfl]
                rcases h.of_cons with ⟨t, ht, hroom⟩ | ⟨hnone, rfl⟩
                · rw [ht]
                  exact ih hroom hms
                · obtain ⟨k, ks, rfl⟩ := List.exists_cons_of_ne_nil hms
                  rw [hnone, put_nil]
                  rfl
              · rw [if_neg hm]

end FileNode

namespace FileTree

/-! ### Changes -/

/-- What stands at a place. -/
def occupant? (t : FileTree) (place : List String) : Option FileNode.Entry :=
  t.root.occupant? place

/-- A file is written: it stands at a place that had room for it, and nothing else changes. -/
structure Change (place : List String) (bytes : List UInt8) (t t' : FileTree) : Prop where
  room : t.root.HasRoom place
  at_place : t'.occupant? place = some (.file bytes)
  elsewhere : ∀ q, q ≠ place → t'.occupant? q = t.occupant? q
  refuses : t'.refuses = t.refuses

/-- Putting a file where there is room for it changes nothing else. -/
theorem change_put {t : FileTree} {place : List String} (h : t.root.HasRoom place)
    (bytes : List UInt8) : Change place bytes t (t.put place (.file bytes)) :=
  ⟨h, t.root.occupant?_put place _, fun _ hq => FileNode.occupant?_put_of_ne h bytes hq, rfl⟩

theorem put_put (t : FileTree) (place : List String) (new new' : FileNode) :
    (t.put place new).put place new' = t.put place new' := by
  simp only [put, FileNode.put_put]

theorem Change.trans {place : List String} {bytes bytes' : List UInt8} {t t' t'' : FileTree}
    (h : Change place bytes t t') (h' : Change place bytes' t' t'') : Change place bytes' t t'' :=
  ⟨h.room, h'.at_place, fun q hq => (h'.elsewhere q hq).trans (h.elsewhere q hq),
    h'.refuses.trans h.refuses⟩

/-! ### Following paths -/

/-- A path is followed by the entries of a tree. -/
theorem follow_nil (t : FileTree) (behind : List String) :
    t.follow behind [] =
      match t.occupant? behind.reverse with
      | none => .error .notFound
      | some (.file bytes) => .ok (.file behind.reverse bytes)
      | some .directory => .ok (.directory behind.reverse) := by
  rw [follow, occupant?, FileNode.occupant?, ← at?]
  cases t.at? behind.reverse with
  | none => rfl
  | some node => cases node <;> rfl

theorem follow_cons (t : FileTree) (behind : List String) (n : String) (ns : List String) :
    t.follow behind (n :: ns) =
      match t.occupant? behind.reverse with
      | none => .error .notFound
      | some (.file _) => .error .notDirectory
      | some .directory =>
        if t.refuses .search behind.reverse then .error .denied
        else if n == ".." then t.follow behind.tail ns
        else if nameSize n > 255 then .error .nameTooLong
        else match t.occupant? (n :: behind).reverse with
          | none => if ns = [] then .ok (.missing (n :: behind).reverse) else .error .notFound
          | some _ => t.follow (n :: behind) ns := by
  have hbelow : t.occupant? (n :: behind).reverse =
      ((t.at? behind.reverse).bind fun node => node.at? [n]).map FileNode.entry := by
    rw [occupant?, FileNode.occupant?, List.reverse_cons, FileNode.at?_append, ← at?]
  rw [follow, hbelow, occupant?, FileNode.occupant?, ← at?]
  cases t.at? behind.reverse with
  | none => rfl
  | some node =>
      cases node with
      | file bytes => rfl
      | directory entries =>
          simp only [Option.map_some, Option.bind_some, FileNode.at?, FileNode.entry]
          split
          · rfl
          split
          · rfl
          split
          · rfl
          cases lookupEntry n entries with
          | none => cases ns <;> rfl
          | some below => cases below <;> rfl

/-- What is said of a place by saying that a path leads to it. -/
def Stands (t : FileTree) : Location → Prop
  | .file place bytes => t.occupant? place = some (.file bytes)
  | .directory place => t.occupant? place = some .directory
  | .missing place => t.occupant? place = none ∧
      ∃ above n, place = above ++ [n] ∧ t.occupant? above = some .directory

/-- What a path leads to is what stands there. -/
theorem stands_of_follow {t : FileTree} {behind ns : List String} {l : Location}
    (h : t.follow behind ns = .ok l) : t.Stands l := by
  induction ns generalizing behind with
  | nil =>
      rw [follow_nil] at h
      split at h
      · cases h
      · rename_i hentry
        cases h
        exact hentry
      · rename_i hentry
        cases h
        exact hentry
  | cons n ns ih =>
      rw [follow_cons] at h
      split at h
      · cases h
      · cases h
      · rename_i hbehind
        split at h
        · cases h
        split at h
        · exact ih h
        split at h
        · cases h
        split at h
        · rename_i hnone
          split at h
          · cases h
            exact ⟨hnone, behind.reverse, n, List.reverse_cons, hbehind⟩
          · cases h
        · exact ih h

theorem locate_ok {t : FileTree} {directory : List String} {p : Path} {l : Location}
    (h : t.locate directory p = .ok l) : ∃ behind, t.follow behind p.names = .ok l := by
  rw [locate] at h
  split at h
  · cases h
  · split at h
    · cases h
    · exact ⟨_, h⟩

theorem stands_of_locate {t : FileTree} {directory : List String} {p : Path} {l : Location}
    (h : t.locate directory p = .ok l) : t.Stands l := by
  obtain ⟨behind, hfollow⟩ := locate_ok h
  exact stands_of_follow hfollow

theorem permit_eq_ok {α : Type} {t : FileTree} {access : Access} {place : List String}
    {r : Except StorageFault α} {a : α} :
    t.permit access place r = .ok a ↔ t.refuses access place = false ∧ r = .ok a := by
  rw [permit]
  split <;> simp_all

/-- A path can be written if it leads to a file that may be written, or to a place that is missing
from a directory that may be. -/
theorem target_eq_ok {t : FileTree} {directory place : List String} {p : Path}
    {before : List UInt8} : t.target directory p = .ok (place, before) ↔
      t.locate directory p = .ok (.file place before) ∧ t.refuses .write place = false ∨
        t.locate directory p = .ok (.missing place) ∧ t.refuses .write place.dropLast = false ∧
          before = [] := by
  rw [target]
  cases t.locate directory p with
  | error fault => simp
  | ok location =>
      cases location with
      | file place' bytes =>
          simp only [permit_eq_ok, Except.ok.injEq, Prod.mk.injEq, Location.file.injEq,
            reduceCtorEq, false_and, or_false]
          constructor
          · rintro ⟨hwrite, rfl, rfl⟩
            exact ⟨⟨rfl, rfl⟩, hwrite⟩
          · rintro ⟨⟨rfl, rfl⟩, hwrite⟩
            exact ⟨hwrite, rfl, rfl⟩
      | directory place' => simp
      | missing place' =>
          simp only [permit_eq_ok, Except.ok.injEq, Prod.mk.injEq, Location.missing.injEq,
            reduceCtorEq, false_and, false_or]
          constructor
          · rintro ⟨hwrite, rfl, rfl⟩
            exact ⟨rfl, hwrite, rfl⟩
          · rintro ⟨rfl, hwrite, rfl⟩
            exact ⟨hwrite, rfl, rfl⟩

/-- A path that can be written leads to a file, or to a place that is missing from a directory. -/
theorem target_ok {t : FileTree} {directory place : List String} {p : Path} {before : List UInt8}
    (h : t.target directory p = .ok (place, before)) :
    t.locate directory p = .ok (.file place before) ∧ t.Stands (.file place before) ∨
      t.locate directory p = .ok (.missing place) ∧ t.Stands (.missing place) := by
  rcases target_eq_ok.1 h with ⟨hlocate, -⟩ | ⟨hlocate, -, -⟩
  · exact .inl ⟨hlocate, stands_of_locate hlocate⟩
  · exact .inr ⟨hlocate, stands_of_locate hlocate⟩

/-- Where a path can be written there is room. -/
theorem hasRoom_of_target {t : FileTree} {directory place : List String} {p : Path}
    {before : List UInt8} (h : t.target directory p = .ok (place, before)) :
    t.root.HasRoom place := by
  rcases target_ok h with ⟨-, hfile⟩ | ⟨-, hmissing⟩
  · exact .inl ⟨before, hfile⟩
  · exact .inr hmissing

/-! ### Paths after a change -/

/-- Whether a path leads to a file with some bytes. -/
def Holds (t : FileTree) (directory : List String) (p : Path) (bytes : List UInt8) : Prop :=
  ∃ place, t.locate directory p = .ok (.file place bytes)

/-- Whether a path leads to the file at a place. -/
def LeadsTo (t : FileTree) (directory : List String) (p : Path) (place : List String) : Prop :=
  ∃ bytes, t.locate directory p = .ok (.file place bytes)

/-- How following a path changes when a file is written at a place of a tree. -/
inductive Rerouted (place : List String) (bytes : List UInt8) (t : FileTree) :
    Except StorageFault Location → Except StorageFault Location → Prop
  /-- It leads to the place, and led to no other file. -/
  | here {before after : Except StorageFault Location} (hafter : after = .ok (.file place bytes))
      (hother : ∀ q b, q ≠ place → before ≠ .ok (.file q b)) : Rerouted place bytes t before after
  /-- It leads where it led. -/
  | same {before after : Except StorageFault Location} (heq : before = after) :
      Rerouted place bytes t before after
  /-- It goes through the place, which was missing, and now ends at the file. -/
  | blocked {before after : Except StorageFault Location} (hbefore : before = .error .notFound)
      (hafter : after = .error .notDirectory) (hmissing : t.occupant? place = none) :
      Rerouted place bytes t before after

namespace Change

variable {place : List String} {bytes : List UInt8} {t t' : FileTree}

theorem occupant?_place (h : Change place bytes t t') :
    (∃ before, t.occupant? place = some (.file before)) ∨ t.occupant? place = none := by
  rcases h.room with hfile | ⟨hnone, -⟩
  · exact .inl hfile
  · exact .inr hnone

/-- A change of a file can be taken back. -/
theorem symm {before : List UInt8} (h : Change place bytes t t')
    (hbefore : t.occupant? place = some (.file before)) : Change place before t' t :=
  ⟨.inl ⟨bytes, h.at_place⟩, hbefore, fun q hq => (h.elsewhere q hq).symm, h.refuses.symm⟩

/-- Names from the place of the change on ended there, or it was missing and they end there now. -/
theorem follow_cons_place (h : Change place bytes t t') {behind : List String}
    (hplace : behind.reverse = place) (n : String) (ns : List String) :
    Rerouted place bytes t (t.follow behind (n :: ns)) (t'.follow behind (n :: ns)) := by
  rw [follow_cons t, follow_cons t', hplace, h.at_place]
  rcases h.occupant?_place with ⟨before, hbefore⟩ | hnone
  · rw [hbefore]
    exact .same rfl
  · rw [hnone]
    exact .blocked rfl rfl hnone

/-- Names are followed as they were, unless they lead to the place of the change or through it. -/
theorem follow (h : Change place bytes t t') (behind ns : List String) :
    Rerouted place bytes t (t.follow behind ns) (t'.follow behind ns) := by
  induction ns generalizing behind with
  | nil =>
      rw [follow_nil, follow_nil]
      by_cases hplace : behind.reverse = place
      · rw [hplace, h.at_place]
        refine .here rfl fun q before hq heq => ?_
        rcases h.occupant?_place with ⟨before', hbefore⟩ | hnone
        · rw [hbefore] at heq
          cases heq
          exact hq rfl
        · rw [hnone] at heq
          cases heq
      · rw [h.elsewhere _ hplace]
        exact .same rfl
  | cons n ns ih =>
      by_cases hplace : behind.reverse = place
      · exact h.follow_cons_place hplace n ns
      rw [follow_cons t, follow_cons t', h.elsewhere _ hplace, h.refuses]
      cases t.occupant? behind.reverse with
      | none => exact .same rfl
      | some e =>
          cases e with
          | file _ => exact .same rfl
          | directory =>
              simp only
              split
              · exact .same rfl
              split
              · exact ih behind.tail
              split
              · exact .same rfl
              -- The next name is looked up before it is followed, so the place of the change is met
              -- one name early: if it was missing, the old way ends here and the new one goes on.
              by_cases hnext : (n :: behind).reverse = place
              · rw [hnext, h.at_place]
                rcases h.occupant?_place with ⟨before, hbefore⟩ | hnone
                · rw [hbefore]
                  exact ih (n :: behind)
                · rw [hnone]
                  cases ns with
                  | nil =>
                      simp only [if_true]
                      rw [follow_nil, hnext, h.at_place]
                      exact .here rfl fun _ _ _ heq => by cases heq
                  | cons m ms =>
                      simp only
                      rw [follow_cons, hnext, h.at_place]
                      exact .blocked rfl rfl hnone
              · rw [h.elsewhere _ hnext]
                cases t.occupant? (n :: behind).reverse with
                | none => exact .same rfl
                | some _ => exact ih (n :: behind)

/-- **A path leads where it led before**, unless it leads to the place of the change or through
it. -/
theorem locate (h : Change place bytes t t') (directory : List String) (p : Path) :
    Rerouted place bytes t (t.locate directory p) (t'.locate directory p) := by
  rw [FileTree.locate, FileTree.locate]
  split
  · exact .same rfl
  · split
    · exact .same rfl
    · exact h.follow _ p.names

/-- A path to another file leads there still. -/
theorem locate_of_ne {directory q : List String} {p : Path} {before : List UInt8}
    (h : Change place bytes t t') (hq : q ≠ place)
    (hlocate : t.locate directory p = .ok (.file q before)) :
    t'.locate directory p = .ok (.file q before) := by
  cases h.locate directory p with
  | here hafter hother => exact absurd hlocate (hother q before hq)
  | same heq => rw [← heq, hlocate]
  | blocked hbefore hafter hmissing =>
      rw [hbefore] at hlocate
      cases hlocate

/-- A path to the place of the change leads there still. -/
theorem leadsTo_of_target {directory : List String} {p : Path} {before : List UInt8}
    (h : Change place bytes t t') (htarget : t.target directory p = .ok (place, before)) :
    t'.locate directory p = .ok (.file place bytes) := by
  cases h.locate directory p with
  | here hafter hother => exact hafter
  | same heq =>
      rcases target_ok htarget with ⟨hlocate, -⟩ | ⟨hlocate, -⟩
      · rw [heq] at hlocate
        have hstands := stands_of_locate hlocate
        rw [Stands, h.at_place] at hstands
        cases hstands
        exact hlocate
      · rw [heq] at hlocate
        have hstands := (stands_of_locate hlocate).1
        rw [h.at_place] at hstands
        cases hstands
  | blocked hbefore hafter hmissing =>
      rw [target, hbefore] at htarget
      cases htarget

section

variable {directory : List String} {p : Path}

/-- A path that does not lead to the place of the change leads where it led before, or to nothing
before and after. -/
theorem locate_of_apart (h : Change place bytes t t') (hapart : ¬t'.LeadsTo directory p place) :
    t.locate directory p = t'.locate directory p ∨
      t.locate directory p = .error .notFound ∧ t'.locate directory p = .error .notDirectory ∧
        t.occupant? place = none := by
  cases h.locate directory p with
  | here hafter hother => exact absurd ⟨bytes, hafter⟩ hapart
  | same heq => exact .inl heq
  | blocked hbefore hafter hmissing => exact .inr ⟨hbefore, hafter, hmissing⟩

/-- What led to a file leads there still when the file is written. -/
theorem leadsTo {before : List UInt8} (h : Change place bytes t t')
    (hbefore : t.occupant? place = some (.file before)) (hleads : t.LeadsTo directory p place) :
    t'.LeadsTo directory p place := by
  obtain ⟨b, hb⟩ := hleads
  cases h.locate directory p with
  | here hafter hother => exact ⟨bytes, hafter⟩
  | same heq => exact ⟨b, heq ▸ hb⟩
  | blocked hnone hafter hmissing =>
      rw [hbefore] at hmissing
      cases hmissing

/-- Changing the bytes of a file makes no difference to what leads there. -/
theorem leadsTo_iff {before : List UInt8} (h : Change place bytes t t')
    (hbefore : t.occupant? place = some (.file before)) :
    t'.LeadsTo directory p place ↔ t.LeadsTo directory p place :=
  ⟨(h.symm hbefore).leadsTo h.at_place, h.leadsTo hbefore⟩

end

end Change

/-! ### Writing -/

section

variable {t t' : FileTree} {directory : List String} {p : Path} {bytes : List UInt8}

/-- What is written is what the path leads to then, and nothing else is changed. -/
theorem write_ok (h : t.write directory p bytes = .ok t') :
    ∃ place before, t.target directory p = .ok (place, before) ∧ Change place bytes t t' ∧
      t'.locate directory p = .ok (.file place bytes) := by
  rw [write] at h
  cases htarget : t.target directory p with
  | error fault =>
      rw [htarget] at h
      cases h
  | ok q =>
      obtain ⟨place, before⟩ := q
      rw [htarget] at h
      cases h
      have hchange := change_put (hasRoom_of_target htarget) bytes
      exact ⟨place, before, rfl, hchange, hchange.leadsTo_of_target htarget⟩

/-- What a file that is open gets at its end changes nothing else; without the file it gets lost. -/
theorem extend_cases (t : FileTree) (place : List String) (bytes : List UInt8) :
    t.extend place bytes = t ∨
      ∃ before, Change place (before ++ bytes) t (t.extend place bytes) := by
  rw [extend]
  split
  · rename_i before hbefore
    have hfile : t.root.occupant? place = some (.file before) := by
      rw [FileNode.occupant?, ← at?, hbefore]
      rfl
    exact .inr ⟨before, change_put (.inl ⟨before, hfile⟩) _⟩
  · exact .inl rfl

/-- From the root on the directory in use makes no difference. -/
theorem locate_of_isAbsolute (hp : p.isAbsolute = true) (t : FileTree)
    (directory directory' : List String) : t.locate directory p = t.locate directory' p := by
  rw [locate, locate, if_pos hp, if_pos hp]

end

end FileTree

end ForumMarkup
