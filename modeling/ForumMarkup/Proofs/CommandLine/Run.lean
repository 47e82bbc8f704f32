import ForumMarkup.Proofs.CommandLine.Library
import ForumMarkup.Proofs.Log.Journal
import ForumMarkup.Proofs.Pass.Refusal
/-
**A run agrees with the library.**

A run records what it does, and the log file that it records to changes all the time; so the files
that a later step meets are not those that the run began with.  As long as the log file is none of
the input, output and configuration files, this makes no difference: each step of the run gives what
the library gives on the files from before, and the run ends as the library refuses or grants its
command line.

Main definitions:

* `ForumMarkup.logFile?`, `ForumMarkup.LogApart` — the log file of a run, and that it is none of the
  other files;
* `ForumMarkup.Session.Keeps` — the invariant of a session;
* `ForumMarkup.Ended` — the ways in which a run ends;
* `ForumMarkup.AgreesWithLibrary` — **what a run has in common with the library**.

Main results:

* `ForumMarkup.Session.options_cases`, `ForumMarkup.Session.document_cases`,
  `ForumMarkup.Session.finish_ended` — the steps of a run;
* `ForumMarkup.ended_run` — there are no other ways in which a run ends;
* `ForumMarkup.run_withInput` — when the options cannot be put together, the input is not read;
* `ForumMarkup.run_agreesWithLibrary` — **a run agrees with the library**.
-/

set_option autoImplicit false

namespace ForumMarkup

/-! ### The log file of a run -/

section

variable (files : FileTree) (s : Surroundings) (a : Arguments)

/-- The log file that a run opens. -/
def logFile? : Option Log.LogFile := Log.opened? files s.directory (Session.setupOf a)

/-- Its place. -/
def logPlace? : Option (List String) := (logFile? files s a).map Log.LogFile.place

/-- The files of a run once its log file is open. -/
def openedFiles : FileTree := ((logFile? files s a).map Log.LogFile.files).getD files

theorem exists_change_of_logFile? {log : Log.LogFile} (h : logFile? files s a = some log) :
    ∃ before, FileTree.Change log.place before files log.files := by
  rw [logFile?, Log.opened?] at h
  split at h
  · cases h
  · split at h
    · cases h
    · split at h
      · cases h
      · rename_i htarget
        cases h
        exact ⟨_, FileTree.change_put (FileTree.hasRoom_of_target htarget) _⟩

/-- Opening the log file changes no other file. -/
theorem sameButLog_openedFiles :
    Log.SameButLog (logPlace? files s a) files (openedFiles files s a) := by
  rw [logPlace?, openedFiles]
  cases hlog : logFile? files s a with
  | none => exact .inl rfl
  | some log =>
      obtain ⟨before, hchange⟩ := exists_change_of_logFile? files s a hlog
      exact .inr ⟨log.place, before, rfl, hchange⟩

theorem logStands_openedFiles : Log.Stands (logPlace? files s a) (openedFiles files s a) := by
  rw [logPlace?, openedFiles]
  cases hlog : logFile? files s a with
  | none =>
      intro place hplace
      cases hplace
  | some log =>
      obtain ⟨before, hchange⟩ := exists_change_of_logFile? files s a hlog
      intro place hplace
      cases hplace
      exact ⟨before, hchange.at_place⟩

/-- The log file of a run, if there is one, is none of the input, output and configuration files. -/
def LogApart : Prop :=
  ∀ p ∈ runPaths s a (openedFiles files s a),
    Log.Past (logPlace? files s a) (openedFiles files s a) s.directory p

end

/-- Before the log file was opened, a path past it was alike. -/
theorem sameWay_before {log? : Option (List String)} {t t' : FileTree} {directory : List String}
    {p : Path} (h : Log.SameButLog log? t t') (hpast : Log.Past log? t' directory p) :
    SameWay t' t directory p := by
  refine ⟨h.refuses.symm, ?_⟩
  rcases h with rfl | ⟨place, bytes, rfl, hchange⟩
  · exact .inl rfl
  · exact (hchange.locate_of_apart (hpast place rfl)).imp_right fun h => ⟨h.1, h.2.1⟩

/-- If the log file stood already, it led to the same. -/
theorem locate_before {log? : Option (List String)} {t t' : FileTree} {directory : List String}
    {p : Path} (h : Log.SameButLog log? t t') (hpast : Log.Past log? t' directory p)
    (hstands : Log.Stands log? t) : t.locate directory p = t'.locate directory p := by
  rcases h with rfl | ⟨place, bytes, rfl, hchange⟩
  · rfl
  · rcases hchange.locate_of_apart (hpast place rfl) with heq | ⟨-, -, hnone⟩
    · exact heq
    · obtain ⟨before, hbefore⟩ := hstands place rfl
      rw [hnone] at hbefore
      cases hbefore

/-! ### Steps of a run -/

/-- What is true of a session all the time, if `t` are the files that its log file was opened in. -/
structure Session.Keeps (log? : Option (List String)) (t : FileTree) (around : Surroundings)
    (s : Session) : Prop where
  around : s.surroundings = around
  journal : s.journal.Keeps log? t

/-- How a run over a command line ends, if `t` are the files that its log file was opened in. -/
inductive Ended (log? : Option (List String)) (t : FileTree) (around : Surroundings)
    (a : Arguments) : Outcome → Prop
  /-- A fault that is not foreseen crashes it. -/
  | crashed {s : Session} {c : Crash} : Ended log? t around a (s.crash c)
  /-- It tells how the library refuses its command line. -/
  | refused {s : Session} {code : Nat} {message : String} (hs : s.Keeps log? t around)
      (hrefused : Refused t around a code message) : Ended log? t around a (s.refuse code message)
  /-- It prints the markup. -/
  | printed {s : Session} {o : Options} {root : Node} {markup : String}
      (hgranted : Granted t around a o root markup) (hname : outputName? a = none) :
      Ended log? t around a (s.stop (.exit successCode) markup)
  /-- It writes the markup to the output file. -/
  | written {outcome : Outcome} {o : Options} {root : Node} {markup name : String}
      (hgranted : Granted t around a o root markup) (hname : outputName? a = some name)
      (hending : outcome.ending = .exit successCode) (houtput : outcome.output = "")
      (hholds : outcome.files.Holds around.directory (.ofString name)
        (Text.utf8Encode markup.toList)) : Ended log? t around a outcome

namespace Session

variable {log? : Option (List String)} {t : FileTree} {around : Surroundings} {a : Arguments}
  {s : Session}

theorem Keeps.note (h : s.Keeps log? t around) (events : List Log.Event) :
    (s.note events).Keeps log? t around :=
  ⟨h.around, h.journal.note _ _⟩

theorem Keeps.refuse_ended (h : s.Keeps log? t around) {fault : LayerFault}
    (hfault : runOptions t around a = .error fault) :
    Ended log? t around a (s.refuseLayers fault) := by
  rw [refuseLayers]
  cases hmessage : fault.message? with
  | none => exact .crashed
  | some message => exact .refused h (.options hfault hmessage)

section

variable (hstands : Log.Stands log? t)
  (hpast : ∀ p ∈ runPaths around a t, Log.Past log? t around.directory p)

include hstands hpast

theorem Keeps.locate (h : s.Keeps log? t around) {p : Path} (hp : p ∈ runPaths around a t) :
    s.journal.files.locate around.directory p = t.locate around.directory p :=
  h.journal.files.locate hstands (hpast p hp)

/-- The options of a run are those of its command line, or their fault ends it. -/
theorem options_cases (h : s.Keeps log? t around) :
    (∃ outcome, s.options a = .error outcome ∧ Ended log? t around a outcome) ∨
      ∃ o s', s.options a = .ok (o, s') ∧ runOptions t around a = .ok o ∧
        s'.Keeps log? t around := by
  have hlook : ∀ {s' : Session}, s'.Keeps log? t around → ∀ p ∈ configLooks t around a,
      SameLook t s'.journal.files around.directory p := fun hs' p hp =>
    SameWay.sameLook ⟨hs'.journal.files.refuses,
      .inl (hs'.locate hstands hpast (mem_runPaths_config hp))⟩
  have hchoose : chooseConfig s.journal.files s.surroundings a = chooseConfig t around a := by
    rw [h.around]
    exact chooseConfig_congr (hlook h)
  rw [Session.options, hchoose]
  cases hchoice : chooseConfig t around a with
  | error fault =>
      refine .inl ⟨_, rfl, h.refuse_ended ?_⟩
      rw [runOptions, hchoice]
      rfl
  | ok choice? =>
      -- The choice is recorded before its file is read, so there is one more record by then.
      have hnote := h.note (choice?.toList.map fun choice => Log.Event.configuration choice.name)
      have hsame : optionsOfChoice (s.note (choice?.toList.map fun choice =>
          Log.Event.configuration choice.name)).journal.files around a choice? =
          runOptions t around a := by
        rw [runOptions, hchoice]
        refine optionsOfChoice_congr fun choice hsome => hlook hnote _ (path_mem_configLooks ?_)
        rw [hchoice, hsome]
      simp only [hnote.around, hsame]
      cases hrun : runOptions t around a with
      | error fault => exact .inl ⟨_, rfl, hnote.refuse_ended hrun⟩
      | ok o => exact .inr ⟨o, _, rfl, rfl, hnote⟩

/-- The document of a run is the one at its input, or its fault ends it. -/
theorem document_cases (h : s.Keeps log? t around) {o : Options}
    (hoptions : runOptions t around a = .ok o) :
    (∃ outcome, s.document a = .error outcome ∧ Ended log? t around a outcome) ∨
      ∃ root s', s.document a = .ok (root, s') ∧ Prepared t around a o root ∧
        s'.Keeps log? t around := by
  have hload : s.found a.input = loadInput t around a.input := by
    rw [found, h.around]
    exact loadInput_congr h.journal.files.refuses fun hinput =>
      h.locate hstands hpast (mem_runPaths_input hinput)
  rw [Session.document, hload]
  have hnote := h.note ((loadInput t around a.input).2.map Log.Event.load)
  cases hroot : (loadInput t around a.input).1 with
  | ok root => exact .inr ⟨root, _, by simp only [hroot], ⟨hoptions, hroot⟩, hnote⟩
  | error fault =>
      left
      simp only [hroot]
      cases hforeseen : fault.isForeseen with
      | true => exact ⟨_, rfl, .refused hnote (.document hoptions hroot hforeseen)⟩
      | false => exact ⟨_, rfl, .crashed⟩

/-- The output file of a run gets the markup, or it is told why not. -/
theorem write_ended (h : s.Keeps log? t around) {o : Options} {root : Node} {markup name : String}
    (hprepared : Prepared t around a o root)
    (hmarkup : markupOf t around.directory o [] (.tree root) = .ok markup)
    (hname : outputName? a = some name) : Ended log? t around a (s.write name markup) := by
  have hlocate := h.locate hstands hpast (mem_runPaths_output hname)
  have htarget : s.journal.files.target around.directory (.ofString name) =
      t.target around.directory (.ofString name) :=
    target_congr h.journal.files.refuses hlocate
  rw [Session.write, h.around]
  cases hdeliver : deliver s.journal.files around.directory markup (.path (.ofString name)) with
  | error fault =>
      obtain ⟨f, hf, rfl⟩ := deliver_error_iff.1 hdeliver
      have hfault : deliver t around.directory markup (.path (.ofString name)) =
          .error (.ofStorage (.ofString name) f) :=
        deliver_error_iff.2 ⟨f, htarget ▸ hf, rfl⟩
      by_cases hnull : f = .nullCharacter
      · subst hnull
        exact .crashed
      · rw [DeliveryFault.ofStorage_of_ne hnull] at hfault ⊢
        exact .refused h (.output hprepared hmarkup hname hfault)
  | ok delivery =>
      -- The output file is written between two records; the second one is made in the files that
      -- the writing has left, so the invariant starts anew from them.
      obtain ⟨files, hwrite, rfl⟩ := deliver_ok hdeliver
      obtain ⟨place, before, hplace, -⟩ := FileTree.write_ok hwrite
      have hstands' := hstands.after h.journal.files
      have hpast' : Log.Past log? s.journal.files around.directory (.ofString name) := by
        rintro log hlog ⟨now, hnow⟩
        rw [hlocate] at hnow
        exact hpast _ (mem_runPaths_output hname) log hlog ⟨now, hnow⟩
      have hnote := (h.journal.written files).note around.time [.wrote name]
      refine .written ⟨hprepared, hmarkup, fun name' hname' => ?_⟩ hname rfl rfl
        (hnote.files.holds_of_write hstands' hpast' hwrite)
      cases hname.symm.trans hname'
      exact deliver_ok_iff.2 ⟨_, htarget ▸ hplace⟩

/-- A run with options and a document has the markup of the library, or tells why not. -/
theorem finish_ended (h : s.Keeps log? t around) {o : Options} {root : Node}
    (hprepared : Prepared t around a o root) : Ended log? t around a (s.finish a o root) := by
  have hmarkup : markupOf t around.directory o [] (.tree root) =
      (renderDocument o root).1.mapError .pass := rfl
  rw [finish]
  have hnote := h.note ((renderDocument o root).2.map Log.Event.pass)
  cases hpass : (renderDocument o root).1 with
  | error reason =>
      rw [hpass] at hmarkup
      simp only [hpass]
      cases ofDocument_of_renderDocument hpass with
      | unsupported u => exact .refused hnote (.construct hprepared hmarkup)
      | misfit m => exact .crashed
  | ok markup =>
      rw [hpass] at hmarkup
      simp only [hpass]
      cases hname : a.output?.bind FlagValue.given? with
      | none =>
          refine .printed ⟨hprepared, hmarkup, fun name hsome => ?_⟩ hname
          rw [outputName?, hname] at hsome
          cases hsome
      | some name => exact write_ended hstands hpast hnote hprepared hmarkup hname

end

end Session

/-! ### Whole runs -/

namespace Session

/-- A session with another text on its input stream. -/
def withInput (s : Session) (text : String) : Session :=
  { s with surroundings := { s.surroundings with input := text } }

/-- Setting up the log does not look at the input. -/
theorem configure_withInput (s : Session) (a : Arguments) (name text : String) :
    (s.withInput text).configure { a with input := name } =
      (s.configure a).map fun r => ((), r.2.withInput text) := by
  rw [configure, configure]
  have hsame : (s.withInput text).journal.configure (s.withInput text).surroundings.time
      (s.withInput text).surroundings.directory (setupOf { a with input := name }) =
      s.journal.configure s.surroundings.time s.surroundings.directory (setupOf a) := rfl
  rw [hsame]
  rcases s.journal.configure s.surroundings.time s.surroundings.directory (setupOf a) with
    ⟨outcome, journal⟩
  cases outcome <;> rfl

/-- A fault of the options comes before any look at the input. -/
theorem options_withInput {s : Session} {a : Arguments} {outcome : Outcome}
    (h : s.options a = .error outcome) (name text : String) :
    (s.withInput text).options { a with input := name } = .error outcome := by
  rw [options] at h ⊢
  have hchoose : chooseConfig (s.withInput text).journal.files (s.withInput text).surroundings
      { a with input := name } = chooseConfig s.journal.files s.surroundings a := rfl
  rw [hchoose]
  cases hchoice : chooseConfig s.journal.files s.surroundings a with
  | error fault =>
      rw [hchoice] at h
      exact h
  | ok choice? =>
      simp only [hchoice] at h ⊢
      have hsame : ∀ s : Session, optionsOfChoice (s.withInput text).journal.files
          (s.withInput text).surroundings { a with input := name } choice? =
            optionsOfChoice s.journal.files s.surroundings a choice? := fun _ => rfl
      have hnote : ∀ events, (s.withInput text).note events = (s.note events).withInput text :=
        fun _ => rfl
      rw [hnote, hsame]
      split at h
      · exact h
      · cases h

end Session

section

variable {files : FileTree} {s : Surroundings} {line : List String} {a : Arguments}

/-- The session in which a run begins. -/
def Session.start (files : FileTree) (s : Surroundings) : Session :=
  { surroundings := s, journal := { files := files } }

/-- A run sets up its log, or crashes there. -/
theorem configure_cases (files : FileTree) (s : Surroundings) (a : Arguments) :
    (∃ (s' : Session) (c : Crash), (Session.start files s).configure a = .error (s'.crash c)) ∨
      ∃ s', (Session.start files s).configure a = .ok ((), s') ∧
        s'.Keeps (logPlace? files s a) (openedFiles files s a) s := by
  have hkeeps := @Log.Journal.keeps_configure s.time s.directory (Session.setupOf a) files
  rw [Session.configure, Session.start]
  rcases hset : ({ files := files } : Log.Journal).configure s.time s.directory
    (Session.setupOf a) with ⟨outcome, journal⟩
  rw [hset] at hkeeps
  cases outcome with
  | error fault => exact .inl ⟨_, _, rfl⟩
  | ok _ => exact .inr ⟨_, rfl, rfl, hkeeps rfl⟩

theorem run_eq (hread : readArguments line = .ok a) :
    run files s line =
      match (Session.start files s).steps a with
      | .ok outcome => outcome
      | .error outcome => outcome := by
  rw [run, hread]
  rfl

/-- **How a run ends.** -/
theorem ended_run (hread : readArguments line = .ok a) (hapart : LogApart files s a) :
    Ended (logPlace? files s a) (openedFiles files s a) s a (run files s line) := by
  have hstands := logStands_openedFiles files s a
  rw [run_eq hread, Session.steps]
  rcases configure_cases files s a with ⟨s₁, c, hconfigure⟩ | ⟨s₁, hconfigure, h₁⟩
  · rw [hconfigure]
    exact .crashed
  rw [hconfigure]
  simp only [bind, Except.bind]
  rcases Session.options_cases hstands hapart h₁ with
    ⟨outcome, hoptions, hended⟩ | ⟨o, s₂, hoptions, ho, h₂⟩
  · rw [hoptions]
    exact hended
  rw [hoptions]
  simp only
  rcases Session.document_cases hstands hapart h₂ ho with
    ⟨outcome, hdocument, hended⟩ | ⟨root, s₃, hdocument, hprepared, h₃⟩
  · rw [hdocument]
    exact hended
  rw [hdocument]
  exact Session.finish_ended hstands hapart h₃ hprepared

/-- When the options cannot be put together, a run does not look at its input. -/
theorem run_withInput (hread : readArguments line = .ok a) (hapart : LogApart files s a)
    {fault : LayerFault} (hfault : runOptions files s a = .error fault) {line' : List String}
    {name text : String} (hread' : readArguments line' = .ok { a with input := name }) :
    run files { s with input := text } line' = run files s line := by
  have hstart : Session.start files { s with input := text } =
      (Session.start files s).withInput text := rfl
  rw [run_eq hread, run_eq hread', hstart, Session.steps, Session.steps,
    Session.configure_withInput]
  rcases configure_cases files s a with ⟨s₁, c, hconfigure⟩ | ⟨s₁, hconfigure, h₁⟩
  · rw [hconfigure]
    rfl
  rw [hconfigure]
  simp only [bind, Except.bind, Except.map]
  rcases Session.options_cases (logStands_openedFiles files s a) hapart h₁ with
    ⟨outcome, hoptions, -⟩ | ⟨o, s₂, -, ho, -⟩
  · rw [hoptions, Session.options_withInput hoptions]
  · have hsame : runOptions files s a = runOptions (openedFiles files s a) s a :=
      runOptions_sameWay fun p hp => sameWay_before (sameButLog_openedFiles files s a) (hapart p hp)
    rw [hsame, ho] at hfault
    cases hfault

/-- What a run has in common with the calls of the library for its command line. -/
structure AgreesWithLibrary (files : FileTree) (s : Surroundings) (a : Arguments)
    (outcome : Outcome) : Prop where
  /-- The exit codes but that of success are those with which the library refuses the command
  line. -/
  refused : ∀ code, code ≠ successCode →
    (outcome.ending = .exit code ↔ ∃ message, Refused files s a code message)
  /-- The exit code of success is for a command line that the library grants. -/
  succeeded : outcome.ending = .exit successCode ↔ ∃ o root markup, Granted files s a o root markup
  /-- A run without an output file prints the markup of the library. -/
  printed : outcome.ending = .exit successCode → outputName? a = none →
    ∃ o root, Granted files s a o root outcome.output
  /-- A run with an output file writes the UTF-8 of that markup to it, and prints nothing. -/
  written : outcome.ending = .exit successCode → ∀ name, outputName? a = some name →
    outcome.output = "" ∧
      ∃ o root markup, Granted files s a o root markup ∧
        outcome.files.Holds s.directory (.ofString name) (Text.utf8Encode markup.toList)
  /-- A run that is refused prints nothing, and tells the message of the library, for the files that
  it leaves behind, and unless it has made the log file, also for those that it began with. -/
  told : ∀ code, code ≠ successCode → outcome.ending = .exit code →
    outcome.output = "" ∧
      ∃ before message, WholeLines before ∧
        outcome.errors = before ++ "Error: " ++ message ++ "\n" ∧
        Refused outcome.files s a code message ∧
        (Log.Stands (logPlace? files s a) files → Refused files s a code message)
  /-- It changes no file but the log file. -/
  unchanged : ∀ code, code ≠ successCode → outcome.ending = .exit code →
    ∀ place, logPlace? files s a ≠ some place →
      outcome.files.occupant? place = files.occupant? place

section

variable (hapart : LogApart files s a)

include hapart

/-- Before the log file was opened, the paths of the run were alike. -/
theorem sameWay_files : ∀ p ∈ runPaths s a (openedFiles files s a),
    SameWay (openedFiles files s a) files s.directory p := fun p hp =>
  sameWay_before (sameButLog_openedFiles files s a) (hapart p hp)

theorem agrees_of_refused {s' : Session} {code : Nat} {message : String}
    (hs : s'.Keeps (logPlace? files s a) (openedFiles files s a) s)
    (hrefused : Refused (openedFiles files s a) s a code message) :
    AgreesWithLibrary files s a (s'.refuse code message) := by
  have hsame : ∀ p ∈ runPaths s a (openedFiles files s a),
      s'.journal.files.locate s.directory p = (openedFiles files s a).locate s.directory p :=
    fun p hp => hs.locate (logStands_openedFiles files s a) hapart hp
  -- The library refuses the files from before the run, those with the log file open, and those that
  -- the run leaves behind, all with one code and the last two with one message.
  obtain ⟨first, hfirst, hstood⟩ := hrefused.of_sameWay (sameWay_files hapart)
  obtain ⟨last, hlast, hmessage⟩ := hrefused.of_sameWay fun p hp =>
    ⟨hs.journal.files.refuses, .inl (hsame p hp)⟩
  rw [hmessage hsame] at hlast
  have hcode : ∀ {code'}, (s'.refuse code message).ending = .exit code' → code = code' :=
    fun h => Ending.exit.inj h
  constructor
  case refused =>
    intro code' hne
    constructor
    · intro hending
      cases hcode hending
      exact ⟨first, hfirst⟩
    · rintro ⟨message', hrefused'⟩
      cases hfirst.code_unique hrefused'
      rfl
  case succeeded =>
    constructor
    · intro hending
      exact absurd (hcode hending) hrefused.code_ne
    · rintro ⟨o, root, markup, hgranted⟩
      exact absurd hgranted hfirst.not_granted
  case printed =>
    intro hending
    exact absurd (hcode hending) hrefused.code_ne
  case written =>
    intro hending
    exact absurd (hcode hending) hrefused.code_ne
  case told =>
    intro code' hne hending
    cases hcode hending
    refine ⟨rfl, s'.journal.console, message, hs.journal.console, rfl, hlast, fun hstands => ?_⟩
    rwa [hstood fun p hp => locate_before (sameButLog_openedFiles files s a) (hapart p hp) hstands]
      at hfirst
  case unchanged =>
    intro code' hne hending place hplace
    exact (hs.journal.files.elsewhere hplace).trans
      ((sameButLog_openedFiles files s a).elsewhere hplace)

theorem agrees_of_granted {outcome : Outcome} {o : Options} {root : Node} {markup : String}
    (hgranted : Granted (openedFiles files s a) s a o root markup)
    (hending : outcome.ending = .exit successCode)
    (hprinted : outputName? a = none → outcome.output = markup)
    (hwritten : ∀ name, outputName? a = some name → outcome.output = "" ∧
      outcome.files.Holds s.directory (.ofString name) (Text.utf8Encode markup.toList)) :
    AgreesWithLibrary files s a outcome := by
  have hfirst := hgranted.of_sameWay (sameWay_files hapart)
  have hcode : ∀ {code}, outcome.ending = .exit code → code = successCode := fun h =>
    (Ending.exit.inj (hending.symm.trans h)).symm
  constructor
  case refused =>
    intro code hne
    constructor
    · intro h
      exact absurd (hcode h) hne
    · rintro ⟨message, hrefused⟩
      exact absurd hfirst hrefused.not_granted
  case succeeded => exact ⟨fun _ => ⟨o, root, markup, hfirst⟩, fun _ => hending⟩
  case printed =>
    intro _ hname
    exact ⟨o, root, by rwa [hprinted hname]⟩
  case written =>
    intro _ name hname
    exact ⟨(hwritten name hname).1, o, root, markup, hfirst, (hwritten name hname).2⟩
  case told =>
    intro code hne h
    exact absurd (hcode h) hne
  case unchanged =>
    intro code hne h
    exact absurd (hcode h) hne

end

/-- **A run agrees with the library**, if nothing crashes it and its log file, if there is one, is
none of its input, output and configuration files.  When the options cannot be put together, it does
not even look at its input. -/
theorem run_agreesWithLibrary (hread : readArguments line = .ok a)
    (hcrash : ∀ c, (run files s line).ending ≠ .crash c) (hapart : LogApart files s a) :
    AgreesWithLibrary files s a (run files s line) ∧
      ∀ fault, runOptions files s a = .error fault → ∀ line' name text,
        readArguments line' = .ok { a with input := name } →
          run files { s with input := text } line' = run files s line := by
  refine ⟨?_, fun fault hfault line' name text hread' =>
    run_withInput hread hapart hfault hread'⟩
  have hended := ended_run hread hapart
  revert hcrash hended
  generalize run files s line = outcome
  intro hcrash hended
  cases hended with
  | crashed => exact absurd rfl (hcrash _)
  | refused hs hrefused => exact agrees_of_refused hapart hs hrefused
  | printed hgranted hname =>
      refine agrees_of_granted hapart hgranted rfl (fun _ => rfl) fun name hname' => ?_
      rw [hname] at hname'
      cases hname'
  | written hgranted hname hending houtput hholds =>
      refine agrees_of_granted hapart hgranted hending (fun hnone => ?_) fun name hname' => ?_
      · rw [hname] at hnone
        cases hnone
      · cases hname.symm.trans hname'
        exact ⟨houtput, hholds⟩

end

/-- Files with one document. -/
def codeFiles : FileTree :=
  .directory [("in", .file (Text.utf8Encode
    ("\x7b\x22kind\x22: \x22code\x22, \x22properties\x22: " ++
      "\x7b\x22value\x22: \x22so\x22\x7d\x7d").toList))]

/-- A directory without a configuration file. -/
def rootAround : Surroundings := { directory := [], home := [] }

/-- A command line for that document whose markup goes to one file and whose records go to
another. -/
def codeArguments : Arguments :=
  { input := "in", output? := some (.text "out"), logLevel := .text "INFO"
    logFile? := some (.text "log") }

/-- The files of that run once its log file is open. -/
def codeOpened : FileTree := openedFiles codeFiles rootAround codeArguments

theorem logApart_code : LogApart codeFiles rootAround codeArguments := by
  have hplace : logPlace? codeFiles rootAround codeArguments = some ["log"] := by decide +kernel
  have hpast : (runPaths rootAround codeArguments codeOpened).all (fun p =>
      (codeOpened.target rootAround.directory p).toOption.map Prod.fst != some ["log"]) = true := by
    decide +kernel
  rintro p hp place hlog ⟨bytes, hlocate⟩
  rw [hplace] at hlog
  cases hlog
  have htarget := List.all_eq_true.1 hpast p hp
  rw [FileTree.target, codeOpened, hlocate] at htarget
  cases htarget

/-- The theorem at that run, which succeeds. -/
theorem run_agreesWithLibrary_code :
    let line := ["in", "-o", "out", "--log-level", "INFO", "--log-file", "log"]
    let outcome := run codeFiles rootAround line
    readArguments line = .ok codeArguments ∧ (∀ c, outcome.ending ≠ .crash c) ∧
      LogApart codeFiles rootAround codeArguments ∧
      AgreesWithLibrary codeFiles rootAround codeArguments outcome ∧
      (outcome.ending matches .exit 0) = true := by
  intro line outcome
  have hread : readArguments line = .ok codeArguments := by decide +kernel
  have hexit : (outcome.ending matches .exit 0) = true := by decide +kernel
  have hcrash : ∀ c, outcome.ending ≠ .crash c := by
    intro c hc
    rw [hc] at hexit
    cases hexit
  exact ⟨hread, hcrash, logApart_code, (run_agreesWithLibrary hread hcrash logApart_code).1, hexit⟩

end ForumMarkup
