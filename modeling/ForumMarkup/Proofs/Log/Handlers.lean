import ForumMarkup.Proofs.Log.Journal
import Mathlib.Data.List.Basic
/-
**Whose handlers are whose.**

The handlers of the logger are in one list, which a set-up and other parts of the program change in
turn.  A set-up marks the handlers that it installs.  It takes away and closes the marked ones that
it finds, whoever else has changed the list meanwhile, and leaves the others as they are.  So
however often the logger is set up, only the handlers of the last set-up are left of all that have
been installed; the others have been closed, each of them once.

Main definitions:

* `ForumMarkup.Log.LevelRequest.Asks` — a number, or the name of a level, asks for a level;
* `ForumMarkup.Log.Call`, `ForumMarkup.Log.Call.perform` — a set-up that asks for a level, and what
  it does;
* `ForumMarkup.Log.Journal.own`, `ForumMarkup.Log.Journal.foreign` — the handlers of set-ups and
  those of others;
* `ForumMarkup.Log.Configured` — what is said of a single set-up;
* `ForumMarkup.Log.Step`, `ForumMarkup.Log.runSteps` — what can happen to the logger, in any order;
* `ForumMarkup.Log.Journal.deliveries` — the lines that a record is brought as, with the handlers
  that bring it;
* `ForumMarkup.Log.InOrder` — what is said of all that has happened.

Main results:

* `ForumMarkup.Log.Logger.release_eq_foldl` — handlers are taken away one by one;
* `ForumMarkup.Log.Call.configured` — a set-up on any journal;
* `ForumMarkup.Log.log_eq_foldl_deliveries` — a record is what is brought to the handlers;
* `ForumMarkup.Log.runSteps_inOrder` — **set-ups touch their own handlers only**, and only those of
  the last one are left.
-/

set_option autoImplicit false

namespace ForumMarkup.Log

/-! ### Requests -/

/-- The names of levels. -/
def standardNames : List (String × Level) :=
  [("NOTSET", .unset), ("DEBUG", .debug), ("INFO", .info), ("WARN", .warning),
    ("WARNING", .warning), ("ERROR", .error), ("CRITICAL", .critical), ("FATAL", .critical)]

/-- A level is asked for by its number, or by its name in letters of either case. -/
inductive LevelRequest.Asks : LevelRequest → Level → Prop
  | number (l : Level) : Asks (.level l) l
  | name {s : String} {l : Level} (h : (Text.upper s, l) ∈ standardNames) : Asks (.name s) l

theorem upperNamed_of_mem {s : String} {l : Level} (h : (s, l) ∈ standardNames) :
    upperNamed s = .level l := by
  simp only [standardNames, List.mem_cons, Prod.mk.injEq, List.not_mem_nil, or_false] at h
  rcases h with ⟨rfl, rfl⟩ | ⟨rfl, rfl⟩ | ⟨rfl, rfl⟩ | ⟨rfl, rfl⟩ | ⟨rfl, rfl⟩ | ⟨rfl, rfl⟩ |
    ⟨rfl, rfl⟩ | ⟨rfl, rfl⟩ <;> rfl

theorem LevelRequest.Asks.resolve {r : LevelRequest} {l : Level} (h : r.Asks l) :
    r.resolve = .ok l := by
  cases h with
  | number l => rfl
  | name h => simp only [LevelRequest.resolve, named, upperNamed_of_mem h]

/-- A set-up that asks for a level, at a time and in a directory. -/
structure Call where
  time : String
  directory : List String
  setup : Setup
  level : Level
  asks : setup.level.Asks level

/-- Whether a file can be opened to write at its end: it is there and may be written, or there is a
directory for it that may be. -/
def CanOpen (t : FileTree) (place : List String) : Prop :=
  (∃ p bytes, t.locate [] (.ofNames place) = .ok (.file p bytes) ∧ t.refuses .write p = false) ∨
    ∃ p, t.locate [] (.ofNames place) = .ok (.missing p) ∧ t.refuses .write p.dropLast = false

theorem canOpen_iff {t : FileTree} {place : List String} :
    CanOpen t place ↔ ∃ files, t.openToAppend [] (.ofNames place) = .ok files := by
  have htarget : CanOpen t place ↔
      ∃ p before, t.target [] (.ofNames place) = .ok (p, before) := by
    simp only [CanOpen, FileTree.target_eq_ok]
    constructor
    · rintro (⟨p, bytes, h⟩ | ⟨p, h⟩)
      · exact ⟨p, bytes, .inl h⟩
      · exact ⟨p, [], .inr ⟨h.1, h.2, rfl⟩⟩
    · rintro ⟨p, before, h | h⟩
      · exact .inl ⟨p, before, h⟩
      · exact .inr ⟨p, h.1, h.2.1⟩
  rw [htarget, FileTree.openToAppend]
  cases t.target [] (.ofNames place) with
  | error fault => simp [bind, Except.bind]
  | ok q => simp [bind, Except.bind, pure, Except.pure, Prod.ext_iff]

namespace Call

variable (c : Call)

/-- The set-up on a journal: its outcome, and the journal after it. -/
def perform (j : Journal) : Except SetupFault Unit × Journal :=
  j.configure c.time c.directory c.setup

/-- A handler of the set-up. -/
def handler (sink : Sink) : Handler :=
  { sink := sink, level := c.level, style? := some c.setup.style, marked := true }

/-- A log file is asked for by a name that is not empty, and it can be opened. -/
def Opens (files : FileTree) (place : List String) : Prop :=
  ∃ name, c.setup.file? = some name ∧ name ≠ "" ∧
    place = (Path.ofString name).absolute c.directory ∧ CanOpen files place

end Call

/-! ### Owners -/

namespace Journal

/-- The handlers of set-ups. -/
def own (j : Journal) : List Handler :=
  j.logger.handlers.filter fun h => h.marked

/-- The handlers of others. -/
def foreign (j : Journal) : List Handler :=
  j.logger.handlers.filter fun h => !h.marked

/-- A record leaves the logger. -/
theorem logger_log (j : Journal) (time : String) (r : Record) :
    (j.log time r).logger = j.logger := by
  have hfold : ∀ (handlers : List Handler) (j : Journal),
      (handlers.foldl (handle time r) j).logger = j.logger := by
    intro handlers
    induction handlers with
    | nil => exact fun _ => rfl
    | cons h handlers ih =>
        intro j
        rw [List.foldl_cons, ih, Keeps.logger_handle]
  unfold log fallBack
  split
  · split
    · split
      · exact Keeps.logger_bring ..
      · rfl
    · exact hfold ..
  · rfl

theorem logger_note (j : Journal) (time : String) (events : List Event) :
    (j.note time events).logger = j.logger := by
  rw [note]
  induction events generalizing j with
  | nil => rfl
  | cons e events ih => rw [List.foldl_cons, ih, logger_log]

end Journal

/-! ### Taking handlers away -/

namespace Logger

/-- The logger without a handler, which is closed. -/
def close (l : Logger) (h : Handler) : Logger :=
  { l.dismiss h with closed := l.closed ++ [h] }

theorem foldl_close (l : Logger) (hs : List Handler) :
    hs.foldl close l =
      { l with handlers := hs.foldl List.erase l.handlers, closed := l.closed ++ hs } := by
  induction hs generalizing l with
  | nil => simp
  | cons h hs ih =>
      rw [List.foldl_cons, ih]
      simp [close, dismiss]

/-- What is not taken away stays in front. -/
theorem foldl_erase_cons {h : Handler} {hs taken : List Handler} (hh : h ∉ taken) :
    taken.foldl List.erase (h :: hs) = h :: taken.foldl List.erase hs := by
  induction taken generalizing hs with
  | nil => rfl
  | cons a taken ih =>
      obtain ⟨hne, hh⟩ := not_or.1 (mt List.mem_cons.2 hh)
      rw [List.foldl_cons, List.foldl_cons, List.erase_cons_tail (by simpa using hne), ih hh]

/-- Handlers are taken away one by one, from a list of them that was made before: none is passed
over. -/
theorem release_eq_foldl (l : Logger) :
    l.release = (l.handlers.filter fun h => h.marked).foldl close l := by
  have herase : ∀ hs : List Handler, (hs.filter fun h => h.marked).foldl List.erase hs =
      hs.filter fun h => !h.marked := by
    intro hs
    induction hs with
    | nil => rfl
    | cons h hs ih =>
        cases hmarked : h.marked with
        | true => simp [hmarked, ih]
        | false =>
            have hh : h ∉ hs.filter fun h => h.marked := by simp [hmarked]
            simp only [List.filter_cons, hmarked, Bool.false_eq_true, if_false, Bool.not_false,
              if_true]
            rw [foldl_erase_cons hh, ih]
  rw [foldl_close, herase, release]

end Logger

/-! ### A single set-up -/

/-- What is said of a set-up that was made on a journal `j`, with its result and the journal after
it. -/
structure Configured (c : Call) (j : Journal) (result : Except SetupFault Unit) (j' : Journal) :
    Prop where
  /-- It ends early for one reason only: the name of the log file cannot even be looked up. -/
  outcome : result = .ok () ∨ result = .error (.file .nullCharacter) ∧
    ¬∃ place, c.Opens j.files place
  /-- The handlers of others are there in their order. -/
  foreign : j'.foreign = j.foreign
  /-- The handlers of set-ups before it have been closed, and no other one has. -/
  closed : j'.logger.closed = j.logger.closed ++ j.own
  /-- In their place there is one handler for the console, and one for the log file if a log file
  has been opened. -/
  own : (∃ place, c.Opens j.files place ∧
      j'.own = [c.handler .console, c.handler (.file place)]) ∨
    (¬∃ place, c.Opens j.files place) ∧ j'.own = [c.handler .console]
  level : j'.logger.level = c.level
  propagate : j'.logger.propagate = false

section

variable (time : String) (directory : List String) (level : Level) (style : Style) (name : String)
  (j : Journal)

/-- A file that can be opened gets a handler. -/
theorem Journal.openFile_of_canOpen
    (h : CanOpen j.files ((Path.ofString name).absolute directory)) :
    (j.openFile time directory level style name).1 = .ok () ∧
      (j.openFile time directory level style name).2.logger = j.logger.install
        { sink := .file ((Path.ofString name).absolute directory), level := level
          style? := some style, marked := true } := by
  obtain ⟨files, happend⟩ := canOpen_iff.1 h
  simp [openFile, happend, logger_note, install]

/-- A file that cannot be opened leaves the logger. -/
theorem Journal.openFile_of_not_canOpen
    (h : ¬CanOpen j.files ((Path.ofString name).absolute directory)) :
    ((j.openFile time directory level style name).1 = .ok () ∨
        (j.openFile time directory level style name).1 = .error (.file .nullCharacter)) ∧
      (j.openFile time directory level style name).2.logger = j.logger := by
  cases happend : j.files.openToAppend [] (.ofNames ((Path.ofString name).absolute directory)) with
  | ok files => exact absurd (canOpen_iff.2 ⟨files, happend⟩) h
  | error fault => cases fault <;> simp [openFile, happend, logger_note]

end

namespace Call

variable (c : Call) (j : Journal)

/-- The logger when a set-up has installed some handlers. -/
def equipped (installed : List Handler) : Logger :=
  { level := c.level, propagate := false, handlers := j.foreign ++ installed
    closed := j.logger.closed ++ j.own }

/-- The journal when a set-up has installed its handler for the console. -/
def prepared : Journal :=
  { j with logger := c.equipped j [c.handler .console] }

theorem perform_eq : c.perform j =
    match c.setup.file? with
    | none => (.ok (), c.prepared j)
    | some name =>
      if name.isEmpty then (.ok (), c.prepared j)
      else (c.prepared j).openFile c.time c.directory c.level c.setup.style name := by
  simp only [perform, Journal.configure, c.asks.resolve]
  rfl

/-- A set-up installs a handler for the console, and one for the log file if it opens one. -/
theorem perform_cases :
    (∃ place, c.Opens j.files place ∧ (c.perform j).1 = .ok () ∧
      (c.perform j).2.logger = c.equipped j [c.handler .console, c.handler (.file place)]) ∨
    (¬∃ place, c.Opens j.files place) ∧
      ((c.perform j).1 = .ok () ∨ (c.perform j).1 = .error (.file .nullCharacter)) ∧
      (c.perform j).2.logger = c.equipped j [c.handler .console] := by
  rw [perform_eq]
  cases hfile : c.setup.file? with
  | none => exact .inr ⟨by simp [Opens, hfile], .inl rfl, rfl⟩
  | some name =>
      by_cases hname : name = ""
      · exact .inr ⟨by simp [Opens, hfile, hname], by simp [hname], by simp [hname, prepared]⟩
      · have hopens : ∀ place, c.Opens j.files place ↔
            place = (Path.ofString name).absolute c.directory ∧ CanOpen j.files place := by
          simp [Opens, hfile, hname]
        simp only [String.isEmpty_iff, hname, if_false]
        by_cases hopen : CanOpen j.files ((Path.ofString name).absolute c.directory)
        · obtain ⟨hok, hlogger⟩ := (c.prepared j).openFile_of_canOpen c.time c.directory c.level
            c.setup.style name hopen
          refine .inl ⟨_, (hopens _).2 ⟨rfl, hopen⟩, hok, ?_⟩
          rw [hlogger]
          simp [Logger.install, prepared, equipped, handler]
        · obtain ⟨houtcome, hlogger⟩ := (c.prepared j).openFile_of_not_canOpen c.time c.directory
            c.level c.setup.style name hopen
          refine .inr ⟨?_, houtcome, hlogger⟩
          rintro ⟨place, hplace⟩
          obtain ⟨rfl, hplace⟩ := (hopens _).1 hplace
          exact hopen hplace

/-- What a set-up has installed is told from the handlers of others by its marks. -/
theorem owners_of_equipped {j' : Journal} {installed : List Handler}
    (h : j'.logger = c.equipped j installed) (hmarked : ∀ h ∈ installed, h.marked = true) :
    j'.foreign = j.foreign ∧ j'.own = installed := by
  have hforeign : installed.filter (fun h => !h.marked) = [] :=
    List.filter_eq_nil_iff.2 fun h hh => by simp [hmarked h hh]
  rw [Journal.foreign, Journal.own, h, equipped]
  simp [hforeign, List.filter_eq_self.2 hmarked, Journal.foreign]

/-- A set-up does with the handlers what is said of it, whatever journal it finds. -/
theorem configured : Configured c j (c.perform j).1 (c.perform j).2 := by
  rcases c.perform_cases j with ⟨place, hopens, hok, hlogger⟩ | ⟨hopens, houtcome, hlogger⟩
  · obtain ⟨hforeign, hown⟩ := c.owners_of_equipped j hlogger (by simp [handler])
    exact ⟨.inl hok, hforeign, by rw [hlogger, equipped], .inl ⟨place, hopens, hown⟩,
      by rw [hlogger, equipped], by rw [hlogger, equipped]⟩
  · obtain ⟨hforeign, hown⟩ := c.owners_of_equipped j hlogger (by simp [handler])
    exact ⟨houtcome.imp id fun h => ⟨h, hopens⟩, hforeign, by rw [hlogger, equipped],
      .inr ⟨hopens, hown⟩, by rw [hlogger, equipped], by rw [hlogger, equipped]⟩

end Call

namespace Configured

variable {c : Call} {j j' : Journal} {result : Except SetupFault Unit}

/-- The handlers of a set-up are of one make, and each of them writes somewhere else. -/
theorem own_spec (h : Configured c j result j') : j'.own ≠ [] ∧
    (∀ h ∈ j'.own, h = c.handler h.sink) ∧ (j'.own.map Handler.sink).Nodup := by
  rcases h.own with ⟨place, -, hown⟩ | ⟨-, hown⟩ <;> rw [hown] <;> simp [Call.handler]

end Configured

/-! ### Deliveries -/

/-- A record is brought by a handler of its level or a lower one, as a line in the style of the
handler. -/
def Handler.delivery? (time : String) (r : Record) (h : Handler) : Option (Handler × String) :=
  if h.level.rank ≤ r.level.rank then h.style?.map fun style => (h, style.line time r) else none

/-- The lines that a record is brought as, with the handlers that bring it. -/
def Journal.deliveries (time : String) (r : Record) (j : Journal) : List (Handler × String) :=
  if isOfProgram r.area && j.logger.passes r.level then
    j.logger.handlers.filterMap (Handler.delivery? time r)
  else []

theorem handle_eq (time : String) (r : Record) (j : Journal) (h : Handler) :
    Journal.handle time r j h =
      (h.delivery? time r).toList.foldl (fun j d => j.bring d.1.sink d.2) j := by
  unfold Journal.handle Handler.delivery?
  split
  · cases h.style? <;> rfl
  · rfl

theorem foldl_handle_eq (time : String) (r : Record) (hs : List Handler) (j : Journal) :
    hs.foldl (Journal.handle time r) j =
      (hs.filterMap (Handler.delivery? time r)).foldl (fun j d => j.bring d.1.sink d.2) j := by
  induction hs generalizing j with
  | nil => rfl
  | cons h hs ih =>
      rw [List.foldl_cons, ih, handle_eq]
      cases hd : h.delivery? time r <;> simp [hd]

/-- Where there is a handler, a record is what is brought by the handlers. -/
theorem log_eq_foldl_deliveries {j : Journal} (h : j.logger.handlers ≠ []) (time : String)
    (r : Record) :
    j.log time r = (j.deliveries time r).foldl (fun j d => j.bring d.1.sink d.2) j := by
  have hsome : j.logger.handlers.isEmpty = false := by simpa using h
  unfold Journal.log Journal.deliveries
  split
  · simp only [hsome, Bool.false_and, Bool.false_eq_true, if_false]
    exact foldl_handle_eq ..
  · rfl

theorem filter_filterMap_delivery? (time : String) (r : Record) (hs : List Handler) :
    (hs.filterMap (Handler.delivery? time r)).filter (fun d => d.1.marked) =
      (hs.filter fun h => h.marked).filterMap (Handler.delivery? time r) := by
  induction hs with
  | nil => rfl
  | cons h hs ih =>
      cases hd : h.delivery? time r with
      | none => cases hmarked : h.marked <;> simp [hd, hmarked, ih]
      | some d =>
          have hfst : d.1 = h := by
            unfold Handler.delivery? at hd
            split at hd
            · obtain ⟨style, -, rfl⟩ := Option.map_eq_some_iff.1 hd
              rfl
            · cases hd
          cases hmarked : h.marked <;> simp [hd, hmarked, hfst, ih]

/-- What the logger passes on is not below its level. -/
theorem Logger.rank_le_of_passes {l : Logger} {level : Level} (h : l.passes level = true) :
    l.level.rank ≤ level.rank := by
  simp only [passes, Bool.and_eq_true, decide_eq_true_eq] at h
  obtain ⟨hpos, hle⟩ := h
  unfold threshold at hle
  split at hle <;> omega

/-- A record that is passed on is brought by each handler of a set-up once. -/
theorem deliveries_of_own {c : Call} {j : Journal} (hlevel : j.logger.level = c.level)
    (hown : ∀ h ∈ j.own, h = c.handler h.sink) {time : String} {r : Record}
    (hprogram : isOfProgram r.area = true) (hpasses : j.logger.passes r.level = true) :
    (j.deliveries time r).filter (fun d => d.1.marked) =
      j.own.map fun h => (h, c.setup.style.line time r) := by
  have hrank : c.level.rank ≤ r.level.rank := hlevel ▸ Logger.rank_le_of_passes hpasses
  have hbrings : ∀ h ∈ j.own, h.delivery? time r = some (h, c.setup.style.line time r) := by
    intro h hh
    rw [hown h hh]
    simp [Handler.delivery?, Call.handler, hrank]
  rw [Journal.deliveries, hprogram, hpasses, Bool.and_self, if_pos rfl, filter_filterMap_delivery?,
    ← Journal.own, List.filterMap_congr hbrings, List.filterMap_eq_map']

/-! ### Set-ups among other changes -/

/-- A handler of others. -/
structure Foreign where
  handler : Handler
  unmarked : handler.marked = false

/-- What can happen to the logger. -/
inductive Step
  | configure (c : Call)
  /-- Others add a handler of theirs, which may be there already. -/
  | attach (h : Foreign)
  /-- Others take a handler of theirs away. -/
  | detach (h : Foreign)
  /-- Something is recorded. -/
  | record (time : String) (r : Record)
  /-- Others change the files. -/
  | files (t : FileTree)

namespace Step

/-- The journal after a step. -/
def run (j : Journal) : Step → Journal
  | .configure c => (c.perform j).2
  | .attach h => { j with logger := j.logger.attach h.handler }
  | .detach h => { j with logger := j.logger.dismiss h.handler }
  | .record time r => j.log time r
  | .files t => { j with files := t }

/-- Whether a step is a set-up. -/
def isCall : Step → Bool
  | .configure _ => true
  | _ => false

/-- What a step does to the handlers of others. -/
def rehang (hs : List Handler) : Step → List Handler
  | .attach h => if h.handler ∈ hs then hs else hs ++ [h.handler]
  | .detach h => hs.erase h.handler
  | _ => hs

/-- Only others change the handlers of others. -/
theorem foreign_run (s : Step) (j : Journal) : (s.run j).foreign = s.rehang j.foreign := by
  cases s with
  | configure c => exact (c.configured j).foreign
  | attach h =>
      have hmem : h.handler ∈ j.foreign ↔ h.handler ∈ j.logger.handlers := by
        simp [Journal.foreign, h.unmarked]
      simp only [run, rehang, hmem, Logger.attach]
      split
      · rfl
      · simp [Journal.foreign, Logger.install, h.unmarked]
  | detach h =>
      simp only [run, rehang, Journal.foreign, Logger.dismiss]
      exact (List.erase_filter ..).symm
  | record time r =>
      simp only [run, Journal.foreign, Journal.logger_log]
      rfl
  | files t => rfl

/-- Only set-ups change anything else. -/
theorem run_of_not_call {s : Step} (h : s.isCall = false) (j : Journal) :
    (s.run j).own = j.own ∧ (s.run j).logger.closed = j.logger.closed ∧
      (s.run j).logger.level = j.logger.level ∧
      (s.run j).logger.propagate = j.logger.propagate := by
  cases s with
  | configure c => cases h
  | attach other =>
      simp only [run, Logger.attach]
      split
      · exact ⟨rfl, rfl, rfl, rfl⟩
      · simp [Journal.own, Logger.install, other.unmarked]
  | detach other =>
      refine ⟨?_, rfl, rfl, rfl⟩
      have hother : other.handler ∉ j.own := by simp [Journal.own, other.unmarked]
      rw [← List.erase_of_not_mem hother]
      exact (List.erase_filter ..).symm
  | record time r => simp only [run, Journal.own, Journal.logger_log, and_self]
  | files t => exact ⟨rfl, rfl, rfl, rfl⟩

end Step

/-- The journal after some steps. -/
def runSteps (j : Journal) (steps : List Step) : Journal :=
  steps.foldl Step.run j

/-- The handlers that set-ups install in the course of some steps, in order.  When a set-up is over
there are no other handlers of set-ups than those that it has installed. -/
def installed : Journal → List Step → List Handler
  | _, [] => []
  | j, s :: steps => (if s.isCall then (s.run j).own else []) ++ installed (s.run j) steps

theorem runSteps_cons (j : Journal) (s : Step) (steps : List Step) :
    runSteps j (s :: steps) = runSteps (s.run j) steps := rfl

theorem runSteps_append (j : Journal) (steps steps' : List Step) :
    runSteps j (steps ++ steps') = runSteps (runSteps j steps) steps' :=
  List.foldl_append

theorem foreign_runSteps (j : Journal) (steps : List Step) :
    (runSteps j steps).foreign = steps.foldl Step.rehang j.foreign := by
  induction steps generalizing j with
  | nil => rfl
  | cons s steps ih => rw [runSteps_cons, ih, s.foreign_run, List.foldl_cons]

/-- A handler that a set-up has installed is there until it is closed. -/
theorem closed_append_own (j : Journal) (steps : List Step) :
    (runSteps j steps).logger.closed ++ (runSteps j steps).own =
      j.logger.closed ++ j.own ++ installed j steps := by
  induction steps generalizing j with
  | nil => simp [runSteps, installed]
  | cons s steps ih =>
      have hstep : (s.run j).logger.closed ++ (s.run j).own =
          j.logger.closed ++ j.own ++ if s.isCall then (s.run j).own else [] := by
        cases hcall : s.isCall with
        | true =>
            cases s with
            | configure c => simp [Step.run, (c.configured j).closed]
            | _ => cases hcall
        | false =>
            obtain ⟨hown, hclosed, -⟩ := Step.run_of_not_call hcall j
            simp [hown, hclosed]
      rw [runSteps_cons, ih, hstep, installed, List.append_assoc]

/-- Without a set-up, only the handlers of others change. -/
theorem runSteps_of_not_call {steps : List Step} (h : ∀ s ∈ steps, s.isCall = false)
    (j : Journal) : (runSteps j steps).own = j.own ∧
      (runSteps j steps).logger.level = j.logger.level ∧
      (runSteps j steps).logger.propagate = j.logger.propagate := by
  induction steps generalizing j with
  | nil => exact ⟨rfl, rfl, rfl⟩
  | cons s steps ih =>
      obtain ⟨hs, hsteps⟩ := List.forall_mem_cons.1 h
      obtain ⟨hown, -, hlevel, hpropagate⟩ := Step.run_of_not_call hs j
      obtain ⟨hown', hlevel', hpropagate'⟩ := ih hsteps (s.run j)
      exact ⟨hown'.trans hown, hlevel'.trans hlevel, hpropagate'.trans hpropagate⟩

/-- What is left of a set-up when no other one has come after it. -/
structure Settled (c : Call) (j j' : Journal) : Prop where
  own : j'.own = j.own
  level : j'.logger.level = c.level
  propagate : j'.logger.propagate = false
  /-- A record is what is brought by the handlers. -/
  brings : ∀ time r,
    j'.log time r = (j'.deliveries time r).foldl (fun j d => j.bring d.1.sink d.2) j'
  /-- Each handler of the set-up brings it once, and each of them writes somewhere else. -/
  once : (j'.own.map Handler.sink).Nodup ∧ ∀ time r, isOfProgram r.area = true →
    j'.logger.passes r.level = true → (j'.deliveries time r).filter (fun d => d.1.marked) =
      j'.own.map fun h => (h, c.setup.style.line time r)

theorem settled {c : Call} {j j' : Journal} {result : Except SetupFault Unit}
    (h : Configured c j result j') {steps : List Step}
    (hsteps : ∀ s ∈ steps, s.isCall = false) : Settled c j' (runSteps j' steps) := by
  obtain ⟨hown, hlevel, hpropagate⟩ := runSteps_of_not_call hsteps j'
  obtain ⟨hsome, hmake, hsinks⟩ := h.own_spec
  rw [← hown] at hsome hmake hsinks
  have hhandlers : (runSteps j' steps).logger.handlers ≠ [] := fun hnone =>
    hsome (by rw [Journal.own, hnone, List.filter_nil])
  exact ⟨hown, hlevel.trans h.level, hpropagate.trans h.propagate,
    log_eq_foldl_deliveries hhandlers, hsinks,
    fun _ _ => deliveries_of_own (hlevel.trans h.level) hmake⟩

/-- What is said of the handlers of the logger after some steps. -/
structure InOrder (j : Journal) (steps : List Step) : Prop where
  /-- Each set-up does with the handlers that it finds what is said of a single one. -/
  calls : ∀ before c after, steps = before ++ .configure c :: after →
    Configured c (runSteps j before) (c.perform (runSteps j before)).1
      (runSteps j (before ++ [.configure c]))
  /-- The handlers of others are those that others have added and not taken away. -/
  foreign : (runSteps j steps).foreign = steps.foldl Step.rehang j.foreign
  /-- The handlers that set-ups have installed have been closed, but for those that are there. -/
  accounted : (runSteps j steps).logger.closed ++ (runSteps j steps).own =
    j.logger.closed ++ j.own ++ installed j steps
  /-- Those that are there are those of the last set-up. -/
  last : ∀ before c after, steps = before ++ .configure c :: after →
    (∀ s ∈ after, s.isCall = false) →
      Settled c (runSteps j (before ++ [.configure c])) (runSteps j steps)

/-- **Set-ups touch their own handlers only**, and only those of the last one are left. -/
theorem runSteps_inOrder (j : Journal) (steps : List Step) : InOrder j steps := by
  have hcall : ∀ before c, Configured c (runSteps j before) (c.perform (runSteps j before)).1
      (runSteps j (before ++ [.configure c])) := by
    intro before c
    rw [runSteps_append]
    exact c.configured _
  refine ⟨fun before c _ _ => hcall before c, foreign_runSteps j steps, closed_append_own j steps,
    ?_⟩
  rintro before c after rfl hafter
  rw [show before ++ .configure c :: after = before ++ [.configure c] ++ after by simp,
    runSteps_append j _ after]
  exact settled (hcall before c) hafter

example :
    let c : Call :=
      { time := "", directory := [], setup := { level := .name "debug" }, level := .debug
        asks := .name (by decide) }
    let j := runSteps { files := default }
      [.configure c, .attach ⟨{ sink := .nowhere }, rfl⟩, .configure c,
        .attach ⟨{ sink := .nowhere }, rfl⟩]
    j.logger.handlers = [{ sink := .nowhere }, c.handler .console] ∧
      j.logger.closed = [c.handler .console] :=
  ⟨rfl, rfl⟩

end ForumMarkup.Log
