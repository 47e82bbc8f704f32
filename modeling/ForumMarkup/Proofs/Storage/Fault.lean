import ForumMarkup.Proofs.Storage.Change
/-
**The faults of looking a path up.**

A path with a null character is not looked up at all.  Any other path leads nowhere because a name
is missing, because a name stands below a file, because the path or one of its names is too long, or
because a directory on its way may not be searched.  Asking what a path leads to counts the first
two as leading to nothing; the last two leave the question without an answer.

Main definitions:

* `ForumMarkup.Path.HasNull` — a name of a path has a null character;
* `ForumMarkup.FileTree.Barred` — **a path cannot even be asked about**.

Main results:

* `ForumMarkup.FileTree.locate_eq_nullCharacter`, `ForumMarkup.FileTree.read_eq_nullCharacter` —
  which paths are not looked up;
* `ForumMarkup.FileTree.stat_error` — what is a fault of asking;
* `ForumMarkup.FileTree.isFile_eq_true` — what it is for a path to lead to a file;
* `ForumMarkup.FileTree.follow_plain`, `ForumMarkup.FileTree.Change.stat_of_missing` — which paths
  lead to a file, and what they led to before it was there.
-/

set_option autoImplicit false

namespace ForumMarkup

/-- A name of a path has a null character. -/
def Path.HasNull (p : Path) : Prop := ∃ n ∈ p.names, '\x00' ∈ n.toList

theorem Path.any_null_iff {p : Path} :
    (p.names.any fun n => n.toList.contains '\x00') = true ↔ p.HasNull := by
  simp [Path.HasNull, List.any_eq_true]

theorem Path.plain_resolveFrom {behind ns : List String} (h : ∀ n ∈ behind, n ≠ "..") :
    ∀ n ∈ resolveFrom behind ns, n ≠ ".." := by
  induction ns generalizing behind with
  | nil =>
      intro n hn
      exact h n (List.mem_reverse.1 hn)
  | cons m ns ih =>
      rw [resolveFrom]
      split
      · exact ih fun n hn => h n (List.mem_of_mem_tail hn)
      · rename_i hm
        exact ih (List.forall_mem_cons.2 ⟨by simpa using hm, h⟩)

/-- Two points are resolved in the names of a path from the root on. -/
theorem Path.plain_absolute (p : Path) (directory : List String) :
    ∀ n ∈ p.absolute directory, n ≠ ".." :=
  plain_resolveFrom (List.forall_mem_nil _)

namespace FileTree

variable {t : FileTree} {directory : List String} {p : Path} {fault : StorageFault}

/-- The faults that are found on the way along a path. -/
theorem follow_error {behind ns : List String} (h : t.follow behind ns = .error fault) :
    fault = .notFound ∨ fault = .notDirectory ∨ fault = .nameTooLong ∨ fault = .denied := by
  induction ns generalizing behind with
  | nil =>
      rw [follow_nil] at h
      split at h <;> cases h
      exact .inl rfl
  | cons n ns ih =>
      rw [follow_cons] at h
      split at h
      · cases h
        exact .inl rfl
      · cases h
        exact .inr (.inl rfl)
      · split at h
        · cases h
          exact .inr (.inr (.inr rfl))
        split at h
        · exact ih h
        split at h
        · cases h
          exact .inr (.inr (.inl rfl))
        split at h
        · split at h <;> cases h
          exact .inl rfl
        · exact ih h

theorem locate_eq_nullCharacter :
    t.locate directory p = .error .nullCharacter ↔ p.HasNull := by
  rw [← Path.any_null_iff, locate]
  split
  · rename_i hnull
    exact iff_of_true rfl hnull
  · rename_i hnull
    constructor
    · intro h
      split at h
      · cases h
      · rcases follow_error h with h | h | h | h <;> cases h
    · intro h
      exact absurd h hnull

/-- A path without a null character leads somewhere or has one of four faults. -/
theorem locate_error (hnull : ¬p.HasNull) (h : t.locate directory p = .error fault) :
    fault = .notFound ∨ fault = .notDirectory ∨ fault = .nameTooLong ∨ fault = .denied := by
  rw [locate, if_neg (mt Path.any_null_iff.1 hnull)] at h
  split at h
  · cases h
    exact .inr (.inr (.inl rfl))
  · exact follow_error h

/-- A file cannot be read for having a null character in its path exactly if that is so. -/
theorem read_eq_nullCharacter : t.read directory p = .error .nullCharacter ↔ p.HasNull := by
  have hpermit : ∀ {place : List String} {r : Except StorageFault (List UInt8)},
      r ≠ .error .nullCharacter → t.permit .read place r ≠ .error .nullCharacter := by
    intro place r hr
    rw [permit]
    split
    · simp
    · exact hr
  rw [← @locate_eq_nullCharacter t directory, read]
  cases t.locate directory p with
  | error fault => simp
  | ok location => cases location <;> simp [hpermit]

/-- A file may be read, or reading it is refused. -/
theorem read_of_permitted {place : List String} {bytes : List UInt8}
    (h : t.locate directory p = .ok (.file place bytes)) (hread : t.refuses .read place = false) :
    t.read directory p = .ok bytes := by
  rw [read, h]
  exact permit_eq_ok.2 ⟨hread, rfl⟩

theorem read_of_refused {place : List String} {bytes : List UInt8}
    (h : t.locate directory p = .ok (.file place bytes)) (hread : t.refuses .read place = true) :
    t.read directory p = .error .denied := by
  rw [read, h]
  exact if_pos hread

/-! ### Asking -/

/-- It cannot even be asked what a path leads to: it or a name on its way is too long, or a
directory on its way may not be searched. -/
def Barred (t : FileTree) (directory : List String) (p : Path) (fault : StorageFault) : Prop :=
  (fault = .nameTooLong ∨ fault = .denied) ∧ t.locate directory p = .error fault

/-- Nothing else is a fault of asking. -/
theorem stat_error : t.stat directory p = .error fault ↔ t.Barred directory p fault := by
  rw [stat, Barred]
  by_cases hnull : p.HasNull
  · rw [locate_eq_nullCharacter.2 hnull]
    constructor
    · exact nofun
    · rintro ⟨rfl | rfl, h⟩ <;> cases h
  · cases hlocate : t.locate directory p with
    | ok location => cases location <;> simp
    | error found =>
        rcases locate_error hnull hlocate with rfl | rfl | rfl | rfl <;> cases fault <;> simp

/-- A path that leads somewhere can be asked about. -/
theorem not_barred_of_locate {location : Location} (h : t.locate directory p = .ok location) :
    ¬t.Barred directory p fault := by
  rintro ⟨-, herror⟩
  rw [h] at herror
  cases herror

theorem Barred.unique {fault' : StorageFault} (h : t.Barred directory p fault)
    (h' : t.Barred directory p fault') : fault = fault' :=
  Except.error.inj (h.2.symm.trans h'.2)

theorem stat_eq_file : t.stat directory p = .ok .file ↔
    ∃ place bytes, t.locate directory p = .ok (.file place bytes) := by
  rw [stat]
  cases t.locate directory p with
  | error found => cases found <;> simp
  | ok location => cases location <;> simp

/-- A path leads to a file if a file is located there. -/
theorem isFile_eq_true : t.isFile directory p = .ok true ↔
    ∃ place bytes, t.locate directory p = .ok (.file place bytes) := by
  rw [← stat_eq_file, isFile]
  cases t.stat directory p with
  | error found => simp [bind, Except.bind]
  | ok status => simp [bind, Except.bind, pure, Except.pure]

theorem isFile_error : t.isFile directory p = .error fault ↔ t.Barred directory p fault := by
  rw [← stat_error, isFile]
  cases t.stat directory p with
  | error found => simp [bind, Except.bind]
  | ok status => simp [bind, Except.bind, pure, Except.pure]

/-! ### Paths to a file -/

/-- The place of what a path leads to. -/
def Location.place : Location → List String
  | .file place _ => place
  | .directory place => place
  | .missing place => place

/-- Names without two points lead to the place that they spell. -/
theorem follow_plain {behind ns : List String} {l : Location} (hplain : ∀ n ∈ ns, n ≠ "..")
    (h : t.follow behind ns = .ok l) : l.place = behind.reverse ++ ns := by
  induction ns generalizing behind with
  | nil =>
      rw [follow_nil] at h
      split at h <;> cases h <;> exact (List.append_nil _).symm
  | cons n ns ih =>
      obtain ⟨hn, hns⟩ := List.forall_mem_cons.1 hplain
      rw [follow_cons] at h
      split at h
      · cases h
      · cases h
      · simp only [beq_iff_eq, hn, if_false] at h
        split at h
        · cases h
        split at h
        · cases h
        split at h
        · split at h <;> cases h
          rename_i hlast
          rw [Location.place, hlast, List.reverse_cons]
        · rw [ih hns h, List.reverse_cons, List.append_assoc, List.singleton_append]

theorem locate_plain {l : Location} (hroot : p.isAbsolute = true)
    (hplain : ∀ n ∈ p.names, n ≠ "..") (h : t.locate directory p = .ok l) : l.place = p.names := by
  rw [locate, if_pos hroot] at h
  split at h
  · cases h
  · split at h
    · cases h
    · exact follow_plain hplain h

/-- Such names can be written where they spell. -/
theorem target_plain {place : List String} {before : List UInt8} (hroot : p.isAbsolute = true)
    (hplain : ∀ n ∈ p.names, n ≠ "..") (h : t.target directory p = .ok (place, before)) :
    place = p.names := by
  rcases target_ok h with ⟨hlocate, -⟩ | ⟨hlocate, -⟩
  · exact locate_plain hroot hplain hlocate
  · exact locate_plain hroot hplain hlocate

/-- What leads to a file that was missing led to nothing before. -/
theorem Change.follow_of_missing {t' : FileTree} {place : List String} {bytes bytes' : List UInt8}
    (hchange : Change place bytes t t') (hmissing : t.occupant? place = none)
    {behind ns : List String} (h : t'.follow behind ns = .ok (.file place bytes')) :
    t.follow behind ns = .ok (.missing place) ∨ t.follow behind ns = .error .notFound := by
  induction ns generalizing behind with
  | nil =>
      rw [follow_nil] at h
      split at h <;> cases h
      exact .inr (by rw [follow_nil, hmissing])
  | cons n ns ih =>
      rw [follow_cons] at h
      split at h
      · cases h
      · cases h
      · rename_i hdirectory
        have hbehind : behind.reverse ≠ place := by
          intro heq
          rw [heq, hchange.at_place] at hdirectory
          cases hdirectory
        rw [hchange.elsewhere _ hbehind] at hdirectory
        rw [follow_cons, hdirectory]
        rw [hchange.refuses] at h
        simp only
        split at h
        · cases h
        rename_i hsearch
        rw [if_neg hsearch]
        split at h
        · rename_i hup
          rw [if_pos hup]
          exact ih h
        · rename_i hup
          rw [if_neg hup]
          split at h
          · cases h
          · rename_i hsize
            rw [if_neg hsize]
            -- The next name is looked up before it is followed, so the place is met one name early.
            by_cases hnext : (n :: behind).reverse = place
            · rw [hnext, hmissing]
              by_cases hns : ns = []
              · exact .inl (by simp [hns])
              · exact .inr (by simp [hns])
            · rw [hchange.elsewhere _ hnext] at h
              split at h
              · split at h <;> cases h
              · exact ih h

/-- Asked before a missing file is written, a path to it leads to nothing. -/
theorem Change.stat_of_missing {t' : FileTree} {place : List String} {bytes bytes' : List UInt8}
    (hchange : Change place bytes t t') (hmissing : t.occupant? place = none)
    (h : t'.locate directory p = .ok (.file place bytes')) :
    t.stat directory p = .ok .absent := by
  rw [FileTree.locate] at h
  rw [stat, FileTree.locate]
  split at h
  · cases h
  · rename_i hnull
    rw [if_neg hnull]
    split at h
    · cases h
    · rename_i hsize
      rw [if_neg hsize]
      rcases hchange.follow_of_missing hmissing h with hbefore | hbefore <;> rw [hbefore]

end FileTree

end ForumMarkup
