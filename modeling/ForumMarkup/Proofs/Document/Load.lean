import ForumMarkup.CommandLine.Run
import ForumMarkup.Proofs.Document.Grammar
import ForumMarkup.Proofs.Json.Reading.Showable
import ForumMarkup.Proofs.Text.Utf8
import ForumMarkup.Proofs.Value.Entry
/-
**Ways to load a document.**

A document tree can be given as JSON text, as a file with that text, on the input stream of a run,
or as the object that the text denotes.  The library takes a text as it is, but files and the stream
with plain line ends; an object is not read at all.  None of this makes a difference to the tree or
to the stage at which loading fails, with one exception: the version of the notation is checked when
a text is read, and an object may state any version.

Main definitions:

* `ForumMarkup.treeOrStage` — the tree, or the stage at which loading fails;
* `ForumMarkup.refusedVersion?` — the version that an object states, if it is not supported;
* `ForumMarkup.SameLoad`, `ForumMarkup.SameExport` — outcomes that differ at most in where a fault
  was found.

Main results:

* `ForumMarkup.load_text_file_stream` — **a text, its file and the input stream come to the same**;
* `ForumMarkup.load_text_mapping` — **a text and its object come to the same up to the version**.
-/

set_option autoImplicit false

namespace ForumMarkup

/-! ### Versions -/

/-- The version that an object states, if it is not supported. -/
def refusedVersion? (entries : List (String × Value)) : Option Value :=
  (statedVersion? entries).filter fun v => !v.isOne

theorem mem_of_refusedVersion? {entries : List (String × Value)} {v : Value}
    (h : refusedVersion? entries = some v) : ("schema_version", v) ∈ entries := by
  obtain ⟨hstated, -⟩ := Option.filter_eq_some_iff.1 h
  unfold statedVersion? at hstated
  split at hstated
  · cases hstated
  · exact mem_of_lookupEntry hstated

/-- The version that an object states is no part of its tree. -/
theorem ofValue_dropVersion (entries : List (String × Value)) :
    Node.ofValue (.object (dropEntry "schema_version" entries)) =
      Node.ofValue (.object entries) := by
  have hkind := lookupEntry_dropEntry (show "kind" ≠ "schema_version" by decide) entries
  have hproperties := lookupEntry_dropEntry (show "properties" ≠ "schema_version" by decide) entries
  have hchildren := lookupEntry_dropEntry (show "children" ≠ "schema_version" by decide) entries
  rw [Node.ofValue, Node.ofValue, kindOfEntries, kindOfEntries, hkind]
  simp only [propertiesIn_eq, childrenIn_eq, hproperties, hchildren]

theorem ofDocument_object (entries : List (String × Value)) :
    Node.ofDocument true (.object entries) =
      match refusedVersion? entries with
      | some v => .error (.version v)
      | none => (Node.ofValue (.object entries)).mapError .tree := by
  rw [Node.ofDocument, ofValue_dropVersion, refusedVersion?]
  cases statedVersion? entries with
  | none =>
      simp only [Option.filter_none]
      cases Node.ofValue (.object entries) <;> rfl
  | some v =>
      cases hone : v.isOne with
      | false => simp [hone, Option.filter]
      | true =>
          simp only [hone, Option.filter, Bool.not_true, Bool.and_false, Bool.false_eq_true,
            if_false]
          cases Node.ofValue (.object entries) <;> rfl

/-! ### Line ends and stages -/

/-- The tree, or the stage at which loading fails.  Under the limit to the digits of an integer
under which a source is loaded a fault may have none. -/
def treeOrStage (limit? : Option Nat) (loaded : Loaded) : Except (Option String) Node :=
  loaded.1.mapError fun fault => fault.stage? limit?

/-- The stages at which a text fails. -/
def textStages : List String := ["json", "schema", treeStage]

/-- A fault of a value that can be shown is foreseen. -/
theorem isForeseen_of_ofDocument {v : Value} {fault : DocumentFault} {limit? : Option Nat}
    (hv : v.isShowable limit? = true) (h : Node.ofDocument true v = .error fault) :
    fault.isForeseen limit? = true := by
  cases v with
  | object entries =>
      rw [ofDocument_object] at h
      split at h
      · rename_i version hversion
        cases h
        exact Value.isShowable_object.1 hv _ (mem_of_refusedVersion? hversion)
      · rcases isTree_or_firstFault (.object entries) with htree | ⟨fault', hfault⟩
        · obtain ⟨root, hroot⟩ := htree.exists_ofValue_eq
          rw [hroot] at h
          cases h
        · rw [hfault.ofValue_eq] at h
          cases h
          exact hfault.isForeseen hv
  | _ =>
      cases h
      rfl

theorem stage?_document {fault : DocumentFault} {limit? : Option Nat}
    (h : fault.isForeseen limit? = true) :
    (LoadFault.document fault).stage? limit? = some fault.stage := by
  rw [LoadFault.stage?, LoadFault.isForeseen, if_pos h]

/-- What loading makes of a text depends on the value that the text denotes. -/
theorem treeOrStage_loadText (limit? : Option Nat) (s : String) :
    treeOrStage limit? (loadText s limit?) =
      match Json.read limit? s.toList with
      | .error failure =>
        .error (if failure.problem.isMalformed then some "json" else none)
      | .ok v => (Node.ofDocument true v).mapError fun fault => some fault.stage := by
  rw [treeOrStage, loadText, Node.ofJson, readValue]
  cases hread : Json.read limit? s.toList with
  | error failure => rfl
  | ok v =>
      have hv := Json.isShowable_of_read hread
      simp only [bind, Except.bind]
      cases hdocument : Node.ofDocument true v with
      | ok root => rfl
      | error fault =>
          exact congrArg Except.error (stage?_document (isForeseen_of_ofDocument hv hdocument))

theorem treeOrStage_loadText_plainLines (limit? : Option Nat) (s : String) :
    treeOrStage limit? (loadText (Text.plainLines s) limit?) =
      treeOrStage limit? (loadText s limit?) := by
  have halike := Json.read_plainNewlines limit? s.toList
  rw [treeOrStage_loadText, treeOrStage_loadText, Text.plainLines, String.toList_ofList]
  generalize Json.read limit? (Text.plainNewlines s.toList) = x at halike ⊢
  generalize Json.read limit? s.toList = y at halike ⊢
  cases x with
  | error failure =>
      cases y with
      | error failure' =>
          have hproblem : failure.problem = failure'.problem := Except.error.inj halike
          simp only [hproblem]
      | ok v => cases halike
  | ok v =>
      cases y with
      | error failure => cases halike
      | ok v' => rw [Except.ok.inj halike]

/-- Without a limit to the digits of an integer a text fails at one of the stages of texts. -/
theorem stage_of_loadText {s : String} {fault : LoadFault}
    (h : (loadText s none).1 = .error fault) :
    ∃ stage ∈ textStages, fault.stage? none = some stage := by
  have hstage : treeOrStage none (loadText s none) = .error (fault.stage? none) := by
    rw [treeOrStage, h]
    rfl
  rw [treeOrStage_loadText] at hstage
  cases hread : Json.read none s.toList with
  | error failure =>
      rw [hread] at hstage
      simp only [Json.isMalformed_of_read hread, if_true] at hstage
      exact ⟨"json", by decide, (Except.error.inj hstage).symm⟩
  | ok v =>
      rw [hread] at hstage
      simp only at hstage
      cases hdocument : Node.ofDocument true v with
      | ok n =>
          rw [hdocument] at hstage
          cases hstage
      | error fault' =>
          rw [hdocument] at hstage
          refine ⟨fault'.stage, ?_, (Except.error.inj hstage).symm⟩
          cases fault' <;> simp [textStages, DocumentFault.stage]

theorem readText_utf8Encode {files : FileTree} {directory : List String} {p : Path} {s : String}
    (h : files.read directory p = .ok (Text.utf8Encode s.toList)) :
    readText files directory p = .ok (Text.plainLines s) := by
  rw [readText, h]
  simp only [Text.utf8Decode?_utf8Encode, String.ofList_toList]

theorem loadPath_utf8Encode {files : FileTree} {directory : List String} {p : Path} {s : String}
    (h : files.read directory p = .ok (Text.utf8Encode s.toList)) (limit? : Option Nat) :
    treeOrStage limit? (loadPath files directory p limit?) =
      treeOrStage limit? (loadText (Text.plainLines s) limit?) := by
  rw [loadPath, readText_utf8Encode h]
  rfl

/-- **A text, its file and the input stream come to the same**: to the same tree, or to a failure at
the same stage, which is a stage of texts if there is no limit to the digits of an integer. -/
theorem load_text_file_stream {s : String} (hjson : looksLikeJson s = true) {files : FileTree}
    {surroundings : Surroundings} {p : Path}
    (hfile : files.read surroundings.directory p = .ok (Text.utf8Encode s.toList))
    (hstream : surroundings.input = Text.plainLines s) (limit? : Option Nat) :
    treeOrStage limit? (load files surroundings.directory (.path p) limit?) =
        treeOrStage limit? (load files surroundings.directory (.text s) limit?) ∧
      treeOrStage limit? (loadInput files surroundings streamName limit?) =
        treeOrStage limit? (load files surroundings.directory (.text s) limit?) ∧
      (limit? = none → ∀ fault,
        (load files surroundings.directory (.text s) limit?).1 = .error fault →
          ∃ stage ∈ textStages, fault.stage? none = some stage) := by
  have htext : load files surroundings.directory (.text s) limit? = loadText s limit? := by
    rw [load, if_pos hjson]
  have hpath : load files surroundings.directory (.path p) limit? =
    loadPath files surroundings.directory p limit? := rfl
  have hinput : loadInput files surroundings streamName limit? =
      loadText (Text.plainLines s) limit? := by
    rw [← hstream]
    rfl
  refine ⟨?_, ?_, ?_⟩
  · rw [hpath, htext, loadPath_utf8Encode hfile, treeOrStage_loadText_plainLines]
  · rw [hinput, htext, treeOrStage_loadText_plainLines]
  · rintro rfl fault hfault
    rw [htext] at hfault
    exact stage_of_loadText hfault

/-- Carriage returns and line feeds between the tokens. -/
theorem load_text_file_stream_returns :
    treeOrStage none (load (.directory [("a", .file (Text.utf8Encode "\r\n\x7b\r\x7d".toList))])
        [] (.path { names := ["a"] }) none) =
      treeOrStage none (load
        (.directory [("a", .file (Text.utf8Encode "\r\n\x7b\r\x7d".toList))]) []
        (.text "\r\n\x7b\r\x7d") none) :=
  (@load_text_file_stream "\r\n\x7b\r\x7d" (by decide)
    (.directory [("a", .file (Text.utf8Encode "\r\n\x7b\r\x7d".toList))])
    { directory := [], home := [], input := Text.plainLines "\r\n\x7b\r\x7d" }
    { names := ["a"] } rfl rfl none).1

/-! ### Texts and objects -/

/-- The same tree, or faults of the same stage and with the same sentence. -/
inductive SameLoad : Except LoadFault Node → Except LoadFault Node → Prop
  | tree (root : Node) : SameLoad (.ok root) (.ok root)
  | fault {f g : LoadFault} (hstage : f.stage? = g.stage?) (hmessage : f.message = g.message) :
      SameLoad (.error f) (.error g)

/-- The same export, or faults of loading of the same stage and with the same sentence. -/
inductive SameExport : Except ExportFault String → Except ExportFault String → Prop
  | refl (x : Except ExportFault String) : SameExport x x
  | fault {f g : LoadFault} (hstage : f.stage? = g.stage?) (hmessage : f.message = g.message) :
      SameExport (.error (.load f)) (.error (.load g))

theorem dropWhile_dropWhile_of_imp {α : Type} {p q : α → Bool} (h : ∀ a, p a = true → q a = true)
    (as : List α) : (as.dropWhile p).dropWhile q = as.dropWhile q := by
  induction as with
  | nil => rfl
  | cons a as ih =>
      cases hp : p a with
      | false => rw [List.dropWhile_cons_of_neg (by simp [hp])]
      | true => rw [List.dropWhile_cons_of_pos hp, List.dropWhile_cons_of_pos (h a hp), ih]

theorem isBlank_of_isGap {c : Char} (h : Json.isGap c = true) : Text.isBlank c = true := by
  simp only [Json.isGap, Bool.or_eq_true, beq_iff_eq] at h
  rcases h with ((rfl | rfl) | rfl) | rfl <;> decide

/-- A text that denotes an object is not taken for a path. -/
theorem looksLikeJson_of_read {limit? : Option Nat} {s : String} {entries : List (String × Value)}
    (h : Json.read limit? s.toList = .ok (.object entries)) : looksLikeJson s = true := by
  obtain ⟨r, hr⟩ := Json.exists_brace_of_read h
  have hblank : Text.isBlank '\x7b' = false := by decide
  rw [looksLikeJson, Text.trimStart,
    ← dropWhile_dropWhile_of_imp (fun _ => isBlank_of_isGap) s.toList]
  rw [Json.skipGap] at hr
  rw [hr, List.dropWhile_cons_of_neg (by simp [hblank])]
  rfl

section

variable {files : FileTree} {directory : List String} {s : String}
  {entries : List (String × Value)}

/-- What a text that denotes an object comes to. -/
theorem load_text_object {limit? : Option Nat}
    (h : Json.read limit? s.toList = .ok (.object entries)) :
    (load files directory (.text s) limit?).1 =
      match refusedVersion? entries with
      | some v => .error (.document (.version v))
      | none => (Node.ofValue (.object entries)).mapError fun fault => .document (.tree fault) := by
  rw [load, if_pos (looksLikeJson_of_read h), loadText, Node.ofJson, readValue, h]
  simp only [bind, Except.bind, ofDocument_object]
  cases refusedVersion? entries with
  | some v => rfl
  | none => cases Node.ofValue (.object entries) <;> rfl

theorem load_mapping (limit? : Option Nat) :
    (load files directory (.mapping entries) limit?).1 =
      (Node.ofValue (.object entries)).mapError .tree := rfl

/-- A tree is refused alike, be it found in a text or given as an object. -/
theorem SameLoad.mapError_tree (x : Except TreeFault Node) :
    SameLoad (x.mapError fun fault => .document (.tree fault)) (x.mapError .tree) := by
  cases x with
  | ok root => exact .tree root
  | error fault => exact .fault rfl rfl

/-- The options of an export are put together before its source is looked at. -/
theorem SameExport.of_sameLoad {source source' : Source}
    (h : SameLoad (load files directory source).1 (load files directory source').1)
    (options : Options) (named : List (String × Setting)) :
    SameExport (markupOf files directory options named source)
      (markupOf files directory options named source') := by
  rw [markupOf, markupOf]
  cases (options.adjust named).mapError ExportFault.options with
  | error fault => exact .refl _
  | ok options =>
      generalize (load files directory source).1 = x at h ⊢
      generalize (load files directory source').1 = y at h ⊢
      cases h with
      | tree root => exact .refl _
      | fault hstage hmessage => exact .fault hstage hmessage

/-- What is true of a text and of the object that it denotes, on every way into the library. -/
structure AgreeUpToVersion (files : FileTree) (directory : List String) (s : String)
    (entries : List (String × Value)) : Prop where
  /-- They load alike if the object states no version or the supported one. -/
  load_alike : refusedVersion? entries = none →
    SameLoad (load files directory (.text s)).1 (load files directory (.mapping entries)).1
  /-- Then their markup is the same. -/
  markup_alike : refusedVersion? entries = none → ∀ options named,
    SameExport (markupOf files directory options named (.text s))
      (markupOf files directory options named (.mapping entries))
  /-- Another version is refused in a text. -/
  refused : ∀ v, refusedVersion? entries = some v →
    (load files directory (.text s)).1 = .error (.document (.version v))
  /-- Then there is no markup either, whatever the options. -/
  no_markup : ∀ v, refusedVersion? entries = some v →
    ∀ (options adjusted : Options) named, options.adjust named = .ok adjusted →
      markupOf files directory options named (.text s) = .error (.load (.document (.version v)))
  /-- The version is not looked at in an object. -/
  unchecked : load files directory (.mapping entries) =
    load files directory (.mapping (dropEntry "schema_version" entries))

/-- **A text and its object come to the same up to the version.** -/
theorem load_text_mapping (files : FileTree) (directory : List String)
    (h : Json.read Text.digitLimit? s.toList = .ok (.object entries)) :
    AgreeUpToVersion files directory s entries := by
  have hload : refusedVersion? entries = none →
      SameLoad (load files directory (.text s)).1 (load files directory (.mapping entries)).1 := by
    intro hversion
    rw [load_text_object h, hversion, load_mapping]
    exact .mapError_tree _
  have hrefused : ∀ v, refusedVersion? entries = some v →
      (load files directory (.text s)).1 = .error (.document (.version v)) := by
    intro v hv
    rw [load_text_object h, hv]
  refine ⟨hload, fun hversion options named => .of_sameLoad (hload hversion) options named,
    hrefused, ?_, ?_⟩
  · intro v hv options adjusted named hadjust
    rw [markupOf, hadjust, hrefused v hv]
    rfl
  · rw [load, load, ofValue_dropVersion]

end

/-- The text of an object with an unsupported version. -/
def futureText : String := "\x7b\"schema_version\":99,\"kind\":\"org-data\"\x7d"

/-- The object of that text. -/
def futureEntries : List (String × Value) :=
  [("schema_version", .int 99), ("kind", .text "org-data")]

theorem read_futureText :
    Json.read Text.digitLimit? futureText.toList = .ok (.object futureEntries) := by cbv

theorem load_text_mapping_future :
    (load (.directory []) [] (.text futureText)).1 = .error (.document (.version (.int 99))) :=
  (load_text_mapping (.directory []) [] read_futureText).refused (.int 99) rfl

/-- An object with an unsupported version is loaded, though its text is refused. -/
theorem not_sameLoad_future :
    Json.read Text.digitLimit? futureText.toList = .ok (.object futureEntries) ∧
      (load (.directory []) [] (.mapping futureEntries)).1 = .ok (.mk .orgData [] []) ∧
      (load (.directory []) [] (.text futureText)).1 = .error (.document (.version (.int 99))) ∧
      ¬SameLoad (load (.directory []) [] (.text futureText)).1
        (load (.directory []) [] (.mapping futureEntries)).1 := by
  have hmapping : (load (.directory []) [] (.mapping futureEntries)).1 = .ok (.mk .orgData [] []) :=
    rfl
  have htext : (load (.directory []) [] (.text futureText)).1 =
      .error (.document (.version (.int 99))) := by
    rw [load_text_object read_futureText]
    rfl
  refine ⟨read_futureText, hmapping, htext, ?_⟩
  rw [hmapping, htext]
  intro h
  cases h

end ForumMarkup
