import ForumMarkup.Log.Logger
import ForumMarkup.Proofs.Storage.Fault
/-
**What a journal touches.**

A set-up opens at most one file, and whatever is recorded afterwards goes to that file and to the
console.  So the files are those that the set-up has left, but for the bytes of the log file, and
the console shows whole lines.  Each record keeps this so, and with it every list of events.

Main definitions:

* `ForumMarkup.WholeLines` — a text of whole lines;
* `ForumMarkup.Log.LogFile`, `ForumMarkup.Log.opened?` — the log file that a set-up opens, and the
  files after it;
* `ForumMarkup.Log.SameButLog` — files that differ at most in the log file;
* `ForumMarkup.Log.Past` — a path that does not lead to the log file;
* `ForumMarkup.Log.Journal.Keeps` — **the invariant of a journal**.

Main results:

* `ForumMarkup.Log.SameButLog.locate`, `ForumMarkup.Log.SameButLog.holds_of_write` — past the log
  file paths lead where they led, and files hold what was written to them;
* `ForumMarkup.Log.Journal.Keeps.log`, `ForumMarkup.Log.Journal.Keeps.note` — a record and a list of
  events keep the invariant;
* `ForumMarkup.Log.Journal.Keeps.written` — so does what is written to another file;
* `ForumMarkup.Log.Journal.keeps_configure` — a set-up that does not end early leads to it.
-/

set_option autoImplicit false

namespace ForumMarkup

/-! ### Whole lines -/

/-- Whether a text consists of whole lines. -/
def WholeLines (s : String) : Prop := s = "" ∨ ∃ t, s = t ++ "\n"

theorem WholeLines.append {s t : String} (hs : WholeLines s) (ht : WholeLines t) :
    WholeLines (s ++ t) := by
  rcases ht with rfl | ⟨t, rfl⟩
  · rwa [String.append_empty]
  · exact .inr ⟨s ++ t, (String.append_assoc ..).symm⟩

namespace Log

theorem wholeLines_line (style : Style) (time : String) (r : Record) :
    WholeLines (style.line time r) := by
  cases style with
  | plain => exact .inr ⟨_, rfl⟩
  | traced => exact .inr ⟨_, rfl⟩

/-! ### The log file -/

/-- A log file, with the files after it was opened. -/
structure LogFile where
  place : List String
  files : FileTree

/-- The log file that a set-up opens. -/
def opened? (files : FileTree) (directory : List String) (setup : Setup) : Option LogFile :=
  match setup.file? with
  | none => none
  | some name =>
    if name.isEmpty then none
    else match files.target [] (.ofNames ((Path.ofString name).absolute directory)) with
      | .error _ => none
      | .ok (place, before) => some { place := place, files := files.put place (.file before) }

/-- Files that differ at most in the log file. -/
def SameButLog (log? : Option (List String)) (t t' : FileTree) : Prop :=
  t' = t ∨ ∃ place bytes, log? = some place ∧ FileTree.Change place bytes t t'

theorem SameButLog.refuses {log? : Option (List String)} {t t' : FileTree}
    (h : SameButLog log? t t') : t'.refuses = t.refuses := by
  rcases h with rfl | ⟨place, bytes, rfl, hchange⟩
  · rfl
  · exact hchange.refuses

theorem SameButLog.elsewhere {log? : Option (List String)} {t t' : FileTree}
    (h : SameButLog log? t t') {q : List String} (hq : log? ≠ some q) :
    t'.occupant? q = t.occupant? q := by
  rcases h with rfl | ⟨place, bytes, rfl, hchange⟩
  · rfl
  · exact hchange.elsewhere q fun heq => hq (by rw [heq])

/-! ### Paths past the log file -/

/-- Whether a path leads past the log file. -/
def Past (log? : Option (List String)) (t : FileTree) (directory : List String) (p : Path) : Prop :=
  ∀ place, log? = some place → ¬t.LeadsTo directory p place

/-- The log file, if there is one, stands at its place. -/
def Stands (log? : Option (List String)) (t : FileTree) : Prop :=
  ∀ place, log? = some place → ∃ bytes, t.occupant? place = some (.file bytes)

section

variable {log? : Option (List String)} {t t' : FileTree} {directory : List String} {p : Path}

theorem Stands.after (hstands : Stands log? t) (h : SameButLog log? t t') : Stands log? t' := by
  intro log hlog
  rcases h with rfl | ⟨place, bytes, rfl, hchange⟩
  · exact hstands log hlog
  · cases hlog
    exact ⟨bytes, hchange.at_place⟩

/-- Once the log file is open, a path past it leads where it led. -/
theorem SameButLog.locate (h : SameButLog log? t t') (hstands : Stands log? t)
    (hpast : Past log? t directory p) : t'.locate directory p = t.locate directory p := by
  rcases h with rfl | ⟨place, bytes, rfl, hchange⟩
  · rfl
  · obtain ⟨before, hbefore⟩ := hstands place rfl
    have hpast' : ¬t'.LeadsTo directory p place := fun hleads =>
      hpast place rfl ((hchange.leadsTo_iff hbefore).1 hleads)
    rcases hchange.locate_of_apart hpast' with heq | ⟨-, -, hnone⟩
    · exact heq.symm
    · rw [hbefore] at hnone
      cases hnone

variable {place : List String} {bytes : List UInt8}

/-- What is written at the end of a path past the log file is another file. -/
theorem Past.ne_of_target (hpast : Past log? t directory p) (hstands : Stands log? t)
    (htarget : t.target directory p = .ok (place, bytes)) : log? ≠ some place := by
  intro hlog
  obtain ⟨before, hbefore⟩ := hstands place hlog
  rcases FileTree.target_ok htarget with ⟨hlocate, -⟩ | ⟨-, hnone, -⟩
  · exact hpast place hlog ⟨_, hlocate⟩
  · rw [hnone] at hbefore
    cases hbefore

/-- Another file holds what was written to it, whatever is recorded after that. -/
theorem SameButLog.holds_of_write {t'' : FileTree} (h : SameButLog log? t' t'')
    (hstands : Stands log? t) (hpast : Past log? t directory p)
    (hwrite : t.write directory p bytes = .ok t') : t''.Holds directory p bytes := by
  obtain ⟨place, before, htarget, hchange, hlocate⟩ := FileTree.write_ok hwrite
  have hplace := hpast.ne_of_target hstands htarget
  have hstands' : Stands log? t' := by
    intro log hlog
    rw [hchange.elsewhere log fun heq => hplace (by rw [hlog, heq])]
    exact hstands log hlog
  have hpast' : Past log? t' directory p := by
    rintro log hlog ⟨now, hnow⟩
    rw [hlocate] at hnow
    cases hnow
    exact hplace hlog
  exact ⟨place, (h.locate hstands' hpast').trans hlocate⟩

end

/-! ### The invariant -/

namespace Journal

/-- What is true of a journal all the time, if `t` are the files that its log file was opened in. -/
structure Keeps (log? : Option (List String)) (t : FileTree) (j : Journal) : Prop where
  /-- The files are the same but for the log file. -/
  files : SameButLog log? t j.files
  /-- The console shows whole lines. -/
  console : WholeLines j.console
  /-- Handlers that write to a file write to the log file. -/
  sinks : ∀ h ∈ j.logger.handlers, ∀ place, h.sink = .file place → log? = some place

namespace Keeps

variable {log? : Option (List String)} {t : FileTree} {j : Journal}

/-- What the log file gets leaves everything else. -/
theorem extend {place : List String} {t' : FileTree} (h : SameButLog (some place) t t')
    (line : List UInt8) : SameButLog (some place) t (t'.extend place line) := by
  rcases t'.extend_cases place line with heq | ⟨before, hchange'⟩
  · rwa [heq]
  -- The first record changes the file as it was opened, each later one adds to what is there.
  · rcases h with rfl | ⟨_, bytes, hplace, hchange⟩
    · exact .inr ⟨place, _, rfl, hchange'⟩
    · cases hplace
      exact .inr ⟨place, _, rfl, hchange.trans hchange'⟩

theorem bring (h : j.Keeps log? t) {sink : Sink} {line : String} (hline : WholeLines line)
    (hsink : ∀ place, sink = .file place → log? = some place) :
    (j.bring sink line).Keeps log? t := by
  cases sink with
  | console => exact ⟨h.files, h.console.append hline, h.sinks⟩
  | nowhere => exact h
  | file place =>
      cases hsink place rfl
      exact ⟨extend h.files _, h.console, h.sinks⟩

theorem logger_bring (j : Journal) (sink : Sink) (line : String) :
    (j.bring sink line).logger = j.logger := by
  cases sink <;> rfl

theorem logger_handle (time : String) (r : Record) (j : Journal) (handler : Handler) :
    (handle time r j handler).logger = j.logger := by
  rw [handle]
  split
  · split
    · exact logger_bring ..
    · rfl
  · rfl

theorem handle (h : j.Keeps log? t) (time : String) (r : Record) {handler : Handler}
    (hhandler : handler ∈ j.logger.handlers) : (handle time r j handler).Keeps log? t := by
  rw [Journal.handle]
  split
  · split
    · exact h.bring (wholeLines_line ..) (h.sinks handler hhandler)
    · exact h
  · exact h

theorem foldl_handle (h : j.Keeps log? t) (time : String) (r : Record) {handlers : List Handler}
    (hhandlers : ∀ handler ∈ handlers, handler ∈ j.logger.handlers) :
    (handlers.foldl (Journal.handle time r) j).Keeps log? t := by
  induction handlers generalizing j with
  | nil => exact h
  | cons handler handlers ih =>
      refine ih (h.handle time r (hhandlers handler List.mem_cons_self)) fun other hother => ?_
      rw [logger_handle]
      exact hhandlers other (List.mem_cons_of_mem _ hother)

/-- A record keeps the invariant. -/
theorem log (h : j.Keeps log? t) (time : String) (r : Record) : (j.log time r).Keeps log? t := by
  rw [Journal.log]
  split
  · split
    · rw [fallBack]
      split
      · exact h.bring (.inr ⟨_, rfl⟩) nofun
      · exact h
    · exact h.foldl_handle time r fun _ hhandler => hhandler
  · exact h

/-- A list of events keeps the invariant. -/
theorem note (h : j.Keeps log? t) (time : String) (events : List Event) :
    (j.note time events).Keeps log? t := by
  rw [Journal.note]
  induction events generalizing j with
  | nil => exact h
  | cons e events ih => exact ih (h.log time e.record)

/-- So does one more handler, if it writes to no file or to the log file. -/
theorem install (h : j.Keeps log? t) {handler : Handler}
    (hhandler : ∀ place, handler.sink = .file place → log? = some place) :
    (j.install handler).Keeps log? t := by
  refine ⟨h.files, h.console, fun other hother place hplace => ?_⟩
  rcases List.mem_append.1 hother with hold | hnew
  · exact h.sinks other hold place hplace
  · rw [List.mem_singleton.1 hnew] at hplace
    exact hhandler place hplace

/-- When another file is written, the invariant is one for the files after that. -/
theorem written (h : j.Keeps log? t) (t' : FileTree) : Keeps log? t' { j with files := t' } :=
  ⟨.inl rfl, h.console, h.sinks⟩

end Keeps

/-! ### Setting up -/

/-- What is true after a set-up: the invariant, for the log file and the files as it was opened. -/
def KeepsOpened (files : FileTree) (log? : Option LogFile) (j : Journal) : Prop :=
  j.Keeps (log?.map LogFile.place) ((log?.map LogFile.files).getD files)

/-- The file that a set-up opens stands at the place that its name spells. -/
theorem place_of_target {directory : List String} {name : String} {files : FileTree}
    {place : List String} {before : List UInt8}
    (h : files.target [] (.ofNames ((Path.ofString name).absolute directory)) =
      .ok (place, before)) : place = (Path.ofString name).absolute directory :=
  FileTree.target_plain rfl (Path.plain_absolute _ _) h

theorem keeps_openFile {time : String} {directory : List String} {level : Level} {style : Style}
    {name : String} {files : FileTree} {j : Journal} {setup : Setup}
    (hfile : setup.file? = some name) (hname : name.isEmpty = false)
    (h : j.Keeps none files) (hfiles : j.files = files)
    (hok : (j.openFile time directory level style name).1 = .ok ()) :
    (j.openFile time directory level style name).2.KeepsOpened files
      (opened? files directory setup) := by
  have hopened : opened? files directory setup =
      match files.target [] (.ofNames ((Path.ofString name).absolute directory)) with
      | .error _ => none
      | .ok (place, before) =>
        some { place := place, files := files.put place (.file before) } := by
    rw [opened?, hfile]
    simp only [hname, Bool.false_eq_true, if_false]
  rw [openFile] at hok ⊢
  rw [hopened, KeepsOpened]
  simp only [hfiles, FileTree.openToAppend] at hok ⊢
  cases htarget : files.target [] (.ofNames ((Path.ofString name).absolute directory)) with
  | error fault =>
      rw [htarget] at hok
      cases fault with
      | nullCharacter => cases hok
      | _ => exact h.note time _
  | ok q =>
      obtain ⟨place, before⟩ := q
      obtain rfl := place_of_target htarget
      simp only [bind, Except.bind, pure, Except.pure, Option.map_some, Option.getD_some]
      have hstart : Keeps (some ((Path.ofString name).absolute directory))
          (files.put ((Path.ofString name).absolute directory) (.file before))
          { j with files := files.put ((Path.ofString name).absolute directory) (.file before) } :=
        ⟨.inl rfl, h.console, fun handler hhandler place hplace => nomatch
          h.sinks handler hhandler place hplace⟩
      refine (hstart.install fun place hplace => ?_).note time _
      cases hplace
      rfl

/-- **A set-up that does not end early leads to the invariant**, on a journal that has recorded
nothing. -/
theorem keeps_configure {time : String} {directory : List String} {setup : Setup}
    {files : FileTree}
    (hok : (({ files := files } : Journal).configure time directory setup).1 = .ok ()) :
    (({ files := files } : Journal).configure time directory setup).2.KeepsOpened files
      (opened? files directory setup) := by
  rw [configure] at hok ⊢
  cases hlevel : setup.level.resolve with
  | error fault =>
      rw [hlevel] at hok
      cases hok
  | ok level =>
      rw [hlevel] at hok
      simp only [equip] at hok ⊢
      have hempty : Keeps none files
          { files := files, logger := { level := level, propagate := false } } :=
        ⟨.inl rfl, .inl rfl, fun _ hmem => absurd hmem List.not_mem_nil⟩
      have hstart := @Keeps.install none files _ hempty
        { sink := .console, level := level, style? := some setup.style, marked := true }
        nofun
      cases hfile : setup.file? with
      | none =>
          rw [opened?, hfile]
          exact hstart
      | some name =>
          rw [hfile] at hok
          cases hname : name.isEmpty with
          | true =>
              rw [opened?, hfile]
              simp only [hname, if_true]
              exact hstart
          | false =>
              simp only [hname, Bool.false_eq_true, if_false] at hok ⊢
              exact keeps_openFile hfile hname hstart rfl hok

end Journal

end Log

end ForumMarkup
