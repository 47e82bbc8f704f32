import ForumMarkup.Proofs.Document.Load
import ForumMarkup.Proofs.Storage.Fault
/-
**Faults of loading a file.**

A document in a file is loaded, or is refused at one of four stages: the file cannot be read, or its
text is not JSON, of another version, or no tree.  Three faults escape, since no stage looks for
them: a null character in the path, bytes that are not UTF-8, and an integer with more digits than
the limit to them.

Main definitions:

* `ForumMarkup.Source.file?` — the file that a source names;
* `ForumMarkup.fileStages` — the stages at which a file is refused;
* `ForumMarkup.Escape` — **the faults that escape**;
* `ForumMarkup.FileOutcome` — what comes of loading a file;
* `ForumMarkup.Contained`, `ForumMarkup.LoadContained` — a tree or a fault of a stage, and when
  loading gives one.

Main results:

* `ForumMarkup.loadText_outcome`, `ForumMarkup.loadPath_outcome` — loading a text and a file;
* `ForumMarkup.Escape.loadPath_eq`, `ForumMarkup.Escape.not_isForeseen` — what escapes does so, and
  is not foreseen;
* `ForumMarkup.loadContained` — **loading is contained exactly if no fault escapes**.
-/

set_option autoImplicit false

namespace ForumMarkup

/-! ### Texts -/

/-- What comes of loading a text: a tree, a fault at one of the stages of texts, or an integer with
more digits than the limit. -/
inductive TextOutcome (limit? : Option Nat) (s : String) : Except LoadFault Node → Prop
  | tree (root : Node) : TextOutcome limit? s (.ok root)
  | refused {fault : LoadFault} {stage : String} (hforeseen : fault.isForeseen limit? = true)
      (hstage : fault.stage? limit? = some stage) (hmem : stage ∈ textStages) :
      TextOutcome limit? s (.error fault)
  | longInteger {failure : Json.Failure} (hread : Json.read limit? s.toList = .error failure)
      (hover : Json.OverLimit limit? failure.problem) :
      TextOutcome limit? s (.error (.document (.notJson failure)))

theorem DocumentFault.stage_mem (fault : DocumentFault) : fault.stage ∈ textStages := by
  cases fault <;> simp [DocumentFault.stage, textStages]

theorem loadText_of_read_error {limit? : Option Nat} {s : String} {failure : Json.Failure}
    (h : Json.read limit? s.toList = .error failure) :
    (loadText s limit?).1 = .error (.document (.notJson failure)) := by
  rw [loadText, Node.ofJson, readValue, h]
  rfl

theorem loadText_outcome (limit? : Option Nat) (s : String) :
    TextOutcome limit? s (loadText s limit?).1 := by
  cases hread : Json.read limit? s.toList with
  | error failure =>
      rw [loadText_of_read_error hread]
      rcases Json.problem_of_read hread with hmalformed | hover
      · exact .refused hmalformed (stage?_document hmalformed) (DocumentFault.stage_mem _)
      · exact .longInteger hread hover
  | ok v =>
      have hload : (loadText s limit?).1 = (Node.ofDocument true v).mapError .document := by
        rw [loadText, Node.ofJson, readValue, hread]
        rfl
      rw [hload]
      cases hdocument : Node.ofDocument true v with
      | ok root => exact .tree root
      | error fault =>
          have hforeseen := isForeseen_of_ofDocument (Json.isShowable_of_read hread) hdocument
          exact .refused hforeseen (stage?_document hforeseen) fault.stage_mem

/-! ### Files -/

/-- The file that a source names. -/
def Source.file? : Source → Option Path
  | .path p => some p
  | .text s => if looksLikeJson s then none else some (.ofString s)
  | _ => none

/-- The stages at which a file is refused. -/
def fileStages : List String := inputStage :: textStages

section

variable (files : FileTree) (directory : List String) (p : Path) (limit? : Option Nat)

/-- The faults that escape from loading a file. -/
inductive Escape : LoadFault → Prop
  /-- Its path has a null character. -/
  | nullCharacter (h : p.HasNull) : Escape (.unreadable p .nullCharacter)
  /-- Its bytes are not the UTF-8 of any text. -/
  | notUtf8 {bytes : List UInt8} (hread : files.read directory p = .ok bytes)
      (h : ∀ cs, bytes ≠ Text.utf8Encode cs) : Escape (.notUtf8 p)
  /-- An integer in its text has more digits than the limit. -/
  | longInteger {cs : List Char} {failure : Json.Failure}
      (hread : files.read directory p = .ok (Text.utf8Encode cs))
      (hjson : Json.read limit? (Text.plainNewlines cs) = .error failure)
      (hover : Json.OverLimit limit? failure.problem) :
      Escape (.document (.notJson failure))

/-- What comes of loading a file: a tree, a fault at one of the stages, or one that escapes. -/
inductive FileOutcome : Except LoadFault Node → Prop
  | tree (root : Node) : FileOutcome (.ok root)
  | refused {fault : LoadFault} {stage : String} (hforeseen : fault.isForeseen limit? = true)
      (hstage : fault.stage? limit? = some stage) (hmem : stage ∈ fileStages) :
      FileOutcome (.error fault)
  | escaped {fault : LoadFault} (h : Escape files directory p limit? fault) :
      FileOutcome (.error fault)

end

section

variable {files : FileTree} {directory : List String} {p : Path} {limit? : Option Nat}

theorem load_file {source : Source} (h : source.file? = some p) :
    load files directory source limit? = loadPath files directory p limit? := by
  cases source with
  | path q =>
      cases h
      rfl
  | text s =>
      rw [Source.file?, Option.ite_none_left_eq_some, Option.some.injEq] at h
      obtain ⟨hjson, rfl⟩ := h
      rw [load, if_neg hjson]
  | _ => cases h

theorem loadPath_of_readText {s : String} (h : readText files directory p = .ok s) :
    (loadPath files directory p limit?).1 = (loadText s limit?).1 := by
  rw [loadPath, h]

theorem loadPath_of_readText_error {fault : LoadFault}
    (h : readText files directory p = .error fault) :
    (loadPath files directory p limit?).1 = .error fault := by
  rw [loadPath, h]

theorem readText_of_not_utf8 {bytes : List UInt8} (hread : files.read directory p = .ok bytes)
    (h : ∀ cs, bytes ≠ Text.utf8Encode cs) :
    readText files directory p = .error (.notUtf8 p) := by
  have hdecode : Text.utf8Decode? bytes = none :=
    Option.eq_none_iff_forall_ne_some.2 fun cs hcs => h cs (Text.utf8Decode?_eq_some.1 hcs)
  rw [readText, hread]
  simp only [hdecode]

theorem readText_chars {cs : List Char}
    (hread : files.read directory p = .ok (Text.utf8Encode cs)) :
    readText files directory p = .ok (String.ofList (Text.plainNewlines cs)) := by
  have hplain := readText_utf8Encode (s := String.ofList cs) (by rwa [String.toList_ofList])
  rwa [Text.plainLines, String.toList_ofList] at hplain

/-- **Loading a file.** -/
theorem loadPath_outcome (files : FileTree) (directory : List String) (p : Path)
    (limit? : Option Nat) :
    FileOutcome files directory p limit? (loadPath files directory p limit?).1 := by
  cases hread : files.read directory p with
  | error found =>
      have htext : readText files directory p = .error (.unreadable p found) := by
        rw [readText, hread]
      rw [loadPath_of_readText_error htext]
      by_cases hnull : found = .nullCharacter
      · subst hnull
        exact .escaped (.nullCharacter (FileTree.read_eq_nullCharacter.1 hread))
      · -- Of the faults of reading only the null character is not the system's.
        have hforeseen : (LoadFault.unreadable p found).isForeseen limit? = true := by
          cases found <;> first | rfl | exact absurd rfl hnull
        have hstage : (LoadFault.unreadable p found).stage? limit? = some inputStage := by
          rw [LoadFault.stage?, if_pos hforeseen]
        exact .refused hforeseen hstage List.mem_cons_self
  | ok bytes =>
      by_cases htext : ∃ cs, bytes = Text.utf8Encode cs
      · obtain ⟨cs, rfl⟩ := htext
        rw [loadPath_of_readText (readText_chars hread)]
        generalize hloaded : (loadText (String.ofList (Text.plainNewlines cs)) limit?).1 = loaded
        have houtcome := hloaded ▸ loadText_outcome limit? (String.ofList (Text.plainNewlines cs))
        cases houtcome with
        | tree root => exact .tree root
        | refused hforeseen hstage hmem =>
            exact .refused hforeseen hstage (List.mem_cons_of_mem _ hmem)
        | longInteger hjson hover =>
            rw [String.toList_ofList] at hjson
            exact .escaped (.longInteger hread hjson hover)
      · have hutf8 : ∀ cs, bytes ≠ Text.utf8Encode cs := fun cs heq => htext ⟨cs, heq⟩
        rw [loadPath_of_readText_error (readText_of_not_utf8 hread hutf8)]
        exact .escaped (.notUtf8 hread hutf8)

namespace Escape

variable {fault : LoadFault}

/-- What can escape does so. -/
theorem loadPath_eq (h : Escape files directory p limit? fault) :
    (loadPath files directory p limit?).1 = .error fault := by
  cases h with
  | nullCharacter h =>
      refine loadPath_of_readText_error ?_
      rw [readText, FileTree.read_eq_nullCharacter.2 h]
  | notUtf8 hread h => exact loadPath_of_readText_error (readText_of_not_utf8 hread h)
  | longInteger hread hjson hover =>
      rw [loadPath_of_readText (readText_chars hread)]
      exact loadText_of_read_error (by rwa [String.toList_ofList])

theorem not_isForeseen (h : Escape files directory p limit? fault) :
    fault.isForeseen limit? = false := by
  cases h with
  | nullCharacter h => rfl
  | notUtf8 hread h => rfl
  | @longInteger cs failure hread hjson hover =>
      rw [LoadFault.isForeseen, DocumentFault.isForeseen]
      generalize failure.problem = problem at hover
      cases hover
      rfl

end Escape

end

/-! ### Containment -/

/-- A tree, or a fault that is foreseen and shows at one of the stages. -/
def Contained (limit? : Option Nat) (outcome : Except LoadFault Node) : Prop :=
  (∃ root, outcome = .ok root) ∨
    ∃ fault, outcome = .error fault ∧ fault.isForeseen limit? = true ∧
      ∃ stage ∈ fileStages, fault.stage? limit? = some stage

/-- What the outcome of loading a file has to do with the faults that escape. -/
structure LoadContained (files : FileTree) (directory : List String) (p : Path)
    (limit? : Option Nat) (outcome : Except LoadFault Node) : Prop where
  /-- It is contained exactly if no fault escapes. -/
  contained : Contained limit? outcome ↔ ∀ fault, ¬Escape files directory p limit? fault
  /-- A fault escapes exactly if it is the outcome and not foreseen. -/
  escapes : ∀ fault, Escape files directory p limit? fault ↔
    outcome = .error fault ∧ fault.isForeseen limit? = false

/-- **Loading is contained exactly if no fault escapes.** -/
theorem loadContained (files : FileTree) (directory : List String) (p : Path)
    (limit? : Option Nat) :
    LoadContained files directory p limit? (loadPath files directory p limit?).1 := by
  have houtcome := loadPath_outcome files directory p limit?
  have hescape : ∀ {fault}, Escape files directory p limit? fault →
      (loadPath files directory p limit?).1 = .error fault := Escape.loadPath_eq
  generalize (loadPath files directory p limit?).1 = outcome at houtcome hescape
  constructor
  case contained =>
    constructor
    · rintro (⟨root, rfl⟩ | ⟨fault, rfl, hforeseen, -⟩) fault' hescape'
      · cases hescape hescape'
      · cases hescape hescape'
        cases hforeseen.symm.trans hescape'.not_isForeseen
    · intro hnone
      cases houtcome with
      | tree root => exact .inl ⟨root, rfl⟩
      | refused hforeseen hstage hmem => exact .inr ⟨_, rfl, hforeseen, _, hmem, hstage⟩
      | escaped h => exact absurd h (hnone _)
  case escapes =>
    refine fun fault => ⟨fun h => ⟨hescape h, h.not_isForeseen⟩, ?_⟩
    rintro ⟨rfl, hforeseen⟩
    cases houtcome with
    | refused hforeseen' _ _ => cases hforeseen.symm.trans hforeseen'
    | escaped h => exact h

end ForumMarkup
