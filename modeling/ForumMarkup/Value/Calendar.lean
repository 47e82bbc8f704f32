/-
**Days, times of day and moments.**

Configuration files can name a day of the calendar, a time of day, and a moment, which has both.  A
moment may say by how many minutes its clock is ahead of universal time.  Two moments that say so
are the same if they are the same instant, and a moment that does not is never the same as one that
does.

Main definitions:

* `ForumMarkup.Day`, `ForumMarkup.Clock`, `ForumMarkup.Moment` — the data;
* `ForumMarkup.Day.of?`, `ForumMarkup.Clock.of?` — a day of the calendar, and a time that a clock
  shows;
* `ForumMarkup.Moment.same` — sameness of moments;
* `ForumMarkup.Day.shown`, `ForumMarkup.Clock.shown`, `ForumMarkup.Moment.shown` — their plain text.
-/

set_option autoImplicit false

namespace ForumMarkup

/-- A day of the calendar. -/
structure Day where
  year : Nat
  month : Nat
  day : Nat
deriving DecidableEq, Repr

/-- A time of day, to the microsecond. -/
structure Clock where
  hour : Nat
  minute : Nat
  second : Nat
  micro : Nat
deriving DecidableEq, Repr

/-- A moment on a clock.  The clock is `ahead?` minutes ahead of universal time, if that is
known. -/
structure Moment where
  day : Day
  clock : Clock
  ahead? : Option Int
deriving DecidableEq, Repr

/-- A number in decimal digits, with zeros in front up to a width. -/
def padded (width n : Nat) : String :=
  let digits := toString n
  String.ofList (List.replicate (width - digits.length) '0') ++ digits

/-! ### Days -/

namespace Day

/-- Whether a year has a day more than the others. -/
def isLeap (year : Nat) : Bool :=
  year % 4 == 0 && (year % 100 != 0 || year % 400 == 0)

/-- The number of days of a month. -/
def daysIn (year month : Nat) : Nat :=
  if month == 2 then (if isLeap year then 29 else 28)
  else if month == 4 || month == 6 || month == 9 || month == 11 then 30
  else if 1 ≤ month && month ≤ 12 then 31 else 0

/-- The day of a year, a month and a day of the month, if there is one.  There is no year zero. -/
def of? (year month day : Nat) : Option Day :=
  if 1 ≤ year ∧ 1 ≤ day ∧ day ≤ daysIn year month then some ⟨year, month, day⟩ else none

/-- The number of days of the calendar before a day. -/
def number (d : Day) : Nat :=
  let years := d.year - 1
  let months := (List.range (d.month - 1)).map fun m => daysIn d.year (m + 1)
  365 * years + years / 4 - years / 100 + years / 400 + months.foldl (· + ·) 0 + (d.day - 1)

/-- A day as plain text. -/
def shown (d : Day) : String :=
  padded 4 d.year ++ "-" ++ padded 2 d.month ++ "-" ++ padded 2 d.day

end Day

/-! ### Times of day -/

namespace Clock

/-- The time of day of the given numbers, if a clock shows it. -/
def of? (hour minute second micro : Nat) : Option Clock :=
  if hour < 24 ∧ minute < 60 ∧ second < 60 then some ⟨hour, minute, second, micro⟩ else none

/-- A time of day as plain text.  Microseconds are left out if there are none. -/
def shown (c : Clock) : String :=
  padded 2 c.hour ++ ":" ++ padded 2 c.minute ++ ":" ++ padded 2 c.second ++
    (if c.micro == 0 then "" else "." ++ padded 6 c.micro)

end Clock

/-! ### Moments -/

namespace Moment

/-- The minutes of the calendar before a moment on its own clock. -/
def minutes (m : Moment) : Nat :=
  (m.day.number * 24 + m.clock.hour) * 60 + m.clock.minute

/-- Whether two moments are the same. -/
def same (a b : Moment) : Bool :=
  match a.ahead?, b.ahead? with
  | none, none => decide (a = b)
  | some m, some n =>
    decide ((a.minutes : Int) - m = (b.minutes : Int) - n) &&
      a.clock.second == b.clock.second && a.clock.micro == b.clock.micro
  | _, _ => false

/-- How far a clock is ahead, as plain text in hours and minutes. -/
def shownAhead (minutes : Int) : String :=
  (if minutes < 0 then "-" else "+") ++ padded 2 (minutes.natAbs / 60) ++ ":" ++
    padded 2 (minutes.natAbs % 60)

/-- A moment as plain text. -/
def shown (m : Moment) : String :=
  m.day.shown ++ " " ++ m.clock.shown ++
    (match m.ahead? with
    | none => ""
    | some minutes => shownAhead minutes)

end Moment

end ForumMarkup
