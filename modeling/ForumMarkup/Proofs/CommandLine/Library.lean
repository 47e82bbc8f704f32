import ForumMarkup.CommandLine.Run
import ForumMarkup.Proofs.CommandLine.Layering
import ForumMarkup.Proofs.Storage.Change
/-
**The library at a command line.**

A command line stands for calls of the library: its options are put together, the document at its
input is loaded, the markup of the document is made under the options, and it is brought to the
output file if one is named.  The first call that fails for a foreseen reason refuses the command
line, with an exit code and a message.  The calls look at a few paths only; on files where these
paths are alike the library refuses a command line with the same code, or gives the same markup.

Main definitions:

* `ForumMarkup.runPaths` — the paths of the input, the output and the configuration;
* `ForumMarkup.Prepared`, `ForumMarkup.Granted` — options and document are fine, and there is
  markup;
* `ForumMarkup.Refused` — **the library refuses a command line**;
* `ForumMarkup.SameWay` — a path leads to the same in trees of files, or nowhere.

Main results:

* `ForumMarkup.Refused.code_unique`, `ForumMarkup.Refused.not_granted` — a command line is refused
  with one code, or it is granted;
* `ForumMarkup.Refused.of_sameWay`, `ForumMarkup.Granted.of_sameWay` — **so it is on files that are
  alike**.
-/

set_option autoImplicit false

namespace ForumMarkup

/-! ### The paths of a command line -/

/-- The output file that a command line names. -/
def outputName? (a : Arguments) : Option String := a.output?.bind FlagValue.given?

/-- The paths of the input file, of the output file and of the configuration files that a command
line leads to. -/
def runPaths (s : Surroundings) (a : Arguments) (t : FileTree) : List Path :=
  (if a.input == streamName then [] else [.ofString a.input]) ++
    ((outputName? a).toList.map .ofString ++ configLooks t s a)

section

variable {t : FileTree} {s : Surroundings} {a : Arguments}

theorem mem_runPaths_input (h : a.input ≠ streamName) : .ofString a.input ∈ runPaths s a t := by
  refine List.mem_append_left _ ?_
  rw [if_neg (by simpa using h)]
  exact List.mem_singleton_self _

theorem mem_runPaths_output {name : String} (h : outputName? a = some name) :
    .ofString name ∈ runPaths s a t := by
  refine List.mem_append_right _ (List.mem_append_left _ ?_)
  rw [h]
  exact List.mem_singleton_self _

theorem mem_runPaths_config {p : Path} (h : p ∈ configLooks t s a) : p ∈ runPaths s a t :=
  List.mem_append_right _ (List.mem_append_right _ h)

end

/-! ### The calls of the library -/

/-- The options of a command line can be put together, and its document can be loaded. -/
structure Prepared (t : FileTree) (s : Surroundings) (a : Arguments) (o : Options) (root : Node) :
    Prop where
  options : runOptions t s a = .ok o
  document : (loadInput t s a.input).1 = .ok root

/-- How the calls of the library for a command line refuse it: the exit code for that, and the
message. -/
inductive Refused (t : FileTree) (s : Surroundings) (a : Arguments) : Nat → String → Prop
  /-- The options cannot be put together. -/
  | options {fault : LayerFault} {message : String} (hfault : runOptions t s a = .error fault)
      (hmessage : fault.message? = some message) : Refused t s a validationCode message
  /-- The options are fine, and the document cannot be loaded. -/
  | document {o : Options} {fault : LoadFault} (hoptions : runOptions t s a = .ok o)
      (hfault : (loadInput t s a.input).1 = .error fault) (hforeseen : fault.isForeseen = true) :
      Refused t s a validationCode fault.message
  /-- Options and document are fine, and there is a construct that the markup cannot express. -/
  | construct {o : Options} {root : Node} {u : Unsupported} (hprepared : Prepared t s a o root)
      (hfault : markupOf t s.directory o [] (.tree root) = .error (.pass (.unsupported u))) :
      Refused t s a renderingCode u.message
  /-- There is markup, and the system does not let the output file be written. -/
  | output {o : Options} {root : Node} {markup name : String} {p : Path} {fault : StorageFault}
      (hprepared : Prepared t s a o root)
      (hmarkup : markupOf t s.directory o [] (.tree root) = .ok markup)
      (hname : outputName? a = some name)
      (hfault : deliver t s.directory markup (.path (.ofString name)) =
        .error (.unwritable p fault)) :
      Refused t s a renderingCode (DeliveryFault.unwritable p fault).message

/-- The calls of the library for a command line give markup, and the output file, if there is one,
can be written. -/
structure Granted (t : FileTree) (s : Surroundings) (a : Arguments) (o : Options) (root : Node)
    (markup : String) : Prop extends Prepared t s a o root where
  markup_ok : markupOf t s.directory o [] (.tree root) = .ok markup
  output_ok : ∀ name, outputName? a = some name →
    ∃ delivery, deliver t s.directory markup (.path (.ofString name)) = .ok delivery

section

variable {t : FileTree} {s : Surroundings} {a : Arguments} {o o' : Options} {root root' : Node}
  {markup : String} {code code' : Nat} {message message' : String}

theorem Prepared.unique (h : Prepared t s a o root) (h' : Prepared t s a o' root') :
    o = o' ∧ root = root' :=
  ⟨Except.ok.inj (h.options.symm.trans h'.options),
    Except.ok.inj (h.document.symm.trans h'.document)⟩

/-- The code tells whether options and document are fine. -/
theorem Refused.code_eq (h : Refused t s a code message) :
    (code = validationCode ∧ ¬∃ o root, Prepared t s a o root) ∨
      code = renderingCode ∧ ∃ o root, Prepared t s a o root := by
  cases h with
  | options hfault hmessage =>
      refine .inl ⟨rfl, ?_⟩
      rintro ⟨o, root, hprepared⟩
      rw [hprepared.options] at hfault
      cases hfault
  | document hoptions hfault hforeseen =>
      refine .inl ⟨rfl, ?_⟩
      rintro ⟨o, root, hprepared⟩
      rw [hprepared.document] at hfault
      cases hfault
  | construct hprepared hfault => exact .inr ⟨rfl, _, _, hprepared⟩
  | output hprepared hmarkup hname hfault => exact .inr ⟨rfl, _, _, hprepared⟩

theorem Refused.code_unique (h : Refused t s a code message) (h' : Refused t s a code' message') :
    code = code' := by
  rcases h.code_eq with ⟨rfl, hnot⟩ | ⟨rfl, hfine⟩ <;>
    rcases h'.code_eq with ⟨rfl, hnot'⟩ | ⟨rfl, hfine'⟩
  · rfl
  · exact absurd hfine' hnot
  · exact absurd hfine hnot'
  · rfl

theorem Refused.code_ne (h : Refused t s a code message) : code ≠ successCode := by
  rcases h.code_eq with ⟨rfl, -⟩ | ⟨rfl, -⟩ <;> decide

/-- A command line that is refused is not granted. -/
theorem Refused.not_granted (h : Refused t s a code message) : ¬Granted t s a o root markup := by
  intro hgranted
  cases h with
  | options hfault hmessage =>
      rw [hgranted.options] at hfault
      cases hfault
  | document hoptions hfault hforeseen =>
      rw [hgranted.document] at hfault
      cases hfault
  | construct hprepared hfault =>
      obtain ⟨rfl, rfl⟩ := hgranted.toPrepared.unique hprepared
      rw [hgranted.markup_ok] at hfault
      cases hfault
  | output hprepared hmarkup hname hfault =>
      obtain ⟨rfl, rfl⟩ := hgranted.toPrepared.unique hprepared
      obtain ⟨delivery, hdelivery⟩ := hgranted.output_ok _ hname
      rw [← Except.ok.inj (hgranted.markup_ok.symm.trans hmarkup), hdelivery] at hfault
      cases hfault

end

/-! ### Paths that are alike -/

/-- A path leads to the same in trees of files in which the system refuses the same, or it leads
nowhere: in one of them its way ends at a file, and in the other that file is missing. -/
structure SameWay (t t' : FileTree) (directory : List String) (p : Path) : Prop where
  refuses : t'.refuses = t.refuses
  locate : t'.locate directory p = t.locate directory p ∨
    t'.locate directory p = .error .notFound ∧ t.locate directory p = .error .notDirectory

section

variable {t t' : FileTree} {directory : List String} {p : Path}

/-- Where a path leads to the same, the same can be read and written. -/
theorem read_congr (hrefuses : t'.refuses = t.refuses)
    (h : t'.locate directory p = t.locate directory p) :
    t'.read directory p = t.read directory p := by
  simp only [FileTree.read, FileTree.permit, h, hrefuses]

theorem target_congr (hrefuses : t'.refuses = t.refuses)
    (h : t'.locate directory p = t.locate directory p) :
    t'.target directory p = t.target directory p := by
  simp only [FileTree.target, FileTree.permit, h, hrefuses]

theorem SameWay.sameLook (h : SameWay t t' directory p) : SameLook t t' directory p := by
  obtain ⟨hrefuses, heq | ⟨habsent, hends⟩⟩ := h
  · exact ⟨by rw [FileTree.stat, FileTree.stat, heq], fun _ => read_congr hrefuses heq⟩
  · refine ⟨by rw [FileTree.stat, FileTree.stat, habsent, hends], fun hfile => ?_⟩
    rw [FileTree.stat, hends] at hfile
    cases hfile

end

/-! ### The calls on files that are alike -/

section

variable {t t' : FileTree} {s : Surroundings} {a : Arguments}

/-- An input is loaded alike, or it cannot be read. -/
theorem loadInput_sameWay
    (h : a.input ≠ streamName → SameWay t t' s.directory (.ofString a.input)) :
    loadInput t' s a.input = loadInput t s a.input ∨
      ∃ p, (loadInput t' s a.input).1 = .error (.unreadable p .notFound) ∧
        (loadInput t s a.input).1 = .error (.unreadable p .notDirectory) := by
  rw [loadInput, loadInput]
  split
  · exact .inl rfl
  · rename_i hinput
    obtain ⟨hrefuses, heq | ⟨habsent, hends⟩⟩ := h (by simpa using hinput)
    · left
      simp only [load, loadPath, readText, read_congr hrefuses heq]
    · right
      refine ⟨.ofString a.input, ?_, ?_⟩
      · simp only [load, loadPath, readText, FileTree.read, habsent]
      · simp only [load, loadPath, readText, FileTree.read, hends]

theorem loadInput_congr (hrefuses : t'.refuses = t.refuses)
    (h : a.input ≠ streamName →
      t'.locate s.directory (.ofString a.input) = t.locate s.directory (.ofString a.input)) :
    loadInput t' s a.input = loadInput t s a.input := by
  rw [loadInput, loadInput]
  split
  · rfl
  · rename_i hinput
    simp only [load, loadPath, readText, read_congr hrefuses (h (by simpa using hinput))]

theorem deliver_error_iff {p : Path} {markup : String} {fault : DeliveryFault} :
    deliver t s.directory markup (.path p) = .error fault ↔
      ∃ f, t.target s.directory p = .error f ∧ fault = .ofStorage p f := by
  rw [deliver, FileTree.write]
  cases t.target s.directory p with
  | error f => simp [bind, Except.bind, eq_comm]
  | ok q => simp [bind, Except.bind, pure, Except.pure]

theorem deliver_ok {p : Path} {markup : String} {delivery : Delivery}
    (h : deliver t s.directory markup (.path p) = .ok delivery) :
    ∃ t', t.write s.directory p (Text.utf8Encode markup.toList) = .ok t' ∧
      delivery = .stored t' := by
  rw [deliver] at h
  split at h
  · cases h
  · cases h
    exact ⟨_, ‹_›, rfl⟩

theorem deliver_ok_iff {p : Path} {markup : String} :
    (∃ delivery, deliver t s.directory markup (.path p) = .ok delivery) ↔
      ∃ q, t.target s.directory p = .ok q := by
  rw [deliver, FileTree.write]
  cases t.target s.directory p with
  | error f => simp [bind, Except.bind]
  | ok q => simp [bind, Except.bind, pure, Except.pure]

section

variable (h : ∀ p ∈ runPaths s a t, SameWay t t' s.directory p)

include h

theorem runOptions_sameWay : runOptions t' s a = runOptions t s a :=
  runOptions_congr fun p hp => (h p (mem_runPaths_config hp)).sameLook

theorem Prepared.of_sameWay {o : Options} {root : Node} (hprepared : Prepared t s a o root) :
    Prepared t' s a o root := by
  refine ⟨(runOptions_sameWay h).trans hprepared.options, ?_⟩
  rcases loadInput_sameWay fun hinput => h _ (mem_runPaths_input hinput) with heq | ⟨p, -, hends⟩
  · rw [heq, hprepared.document]
  · rw [hprepared.document] at hends
    cases hends

theorem Granted.of_sameWay {o : Options} {root : Node} {markup : String}
    (hgranted : Granted t s a o root markup) : Granted t' s a o root markup := by
  refine ⟨hgranted.toPrepared.of_sameWay h, hgranted.markup_ok, fun name hname => ?_⟩
  have hoks := deliver_ok_iff.1 (hgranted.output_ok name hname)
  obtain ⟨q, hq⟩ := hoks
  obtain ⟨hrefuses, heq | ⟨-, hends⟩⟩ := h _ (mem_runPaths_output hname)
  · exact deliver_ok_iff.2 ⟨q, (target_congr hrefuses heq).trans hq⟩
  · rw [FileTree.target, hends] at hq
    cases hq

/-- Files on which all paths of a run are alike refuse a command line with the same code, and if the
paths lead to the same, with the same message. -/
theorem Refused.of_sameWay {code : Nat} {message : String} (hrefused : Refused t s a code message) :
    ∃ message', Refused t' s a code message' ∧
      ((∀ p ∈ runPaths s a t, t'.locate s.directory p = t.locate s.directory p) →
        message' = message) := by
  cases hrefused with
  | options hfault hmessage =>
      exact ⟨_, .options ((runOptions_sameWay h).trans hfault) hmessage, fun _ => rfl⟩
  | construct hprepared hfault =>
      exact ⟨_, .construct (hprepared.of_sameWay h) hfault, fun _ => rfl⟩
  | document hoptions hfault hforeseen =>
      have hoptions' := (runOptions_sameWay h).trans hoptions
      rcases loadInput_sameWay fun hinput => h _ (mem_runPaths_input hinput) with
        heq | ⟨p, habsent, hends⟩
      · exact ⟨_, .document hoptions' (heq ▸ hfault) hforeseen, fun _ => rfl⟩
      · refine ⟨_, .document hoptions' habsent rfl, fun hsame => ?_⟩
        have hinput : a.input ≠ streamName := by
          intro hinput
          simp only [loadInput, hinput, beq_self_eq_true, if_true] at habsent hends
          exact nomatch habsent.symm.trans hends
        rw [loadInput_congr (h _ (mem_runPaths_input hinput)).refuses
          fun hinput => hsame _ (mem_runPaths_input hinput), hends] at habsent
        cases habsent
  | output hprepared hmarkup hname hfault =>
      have hprepared' := hprepared.of_sameWay h
      obtain ⟨f, htarget, hf⟩ := deliver_error_iff.1 hfault
      obtain ⟨hrefuses, heq | ⟨habsent, hends⟩⟩ := h _ (mem_runPaths_output hname)
      · refine ⟨_, .output hprepared' hmarkup hname (deliver_error_iff.2 ⟨f, ?_, hf⟩),
          fun _ => rfl⟩
        exact (target_congr hrefuses heq).trans htarget
      · refine ⟨_, .output hprepared' hmarkup hname (deliver_error_iff.2 ⟨.notFound, ?_, rfl⟩),
          fun hsame => ?_⟩
        · rw [FileTree.target, habsent]
        · rw [hsame _ (mem_runPaths_output hname), hends] at habsent
          cases habsent

end

end

end ForumMarkup
