/-!
# Instants

A point of time as its reading in the Gregorian calendar, to the nanosecond, in UTC. A leap second is
the second 60 of its minute. Two instants are equal exactly when they read the same. How far apart they
are is told by the days and milliseconds since the start of the year 1970.
-/

namespace PathShell

/-- A year with an additional day in February. -/
def isLeapYear (year : Int) : Bool :=
  year % 4 = 0 && (year % 100 ≠ 0 || year % 400 = 0)

/-- How many days a month has; none where there is no such month. -/
def daysInMonth (year : Int) (month : Nat) : Nat :=
  match month with
  | 2 => if isLeapYear year then 29 else 28
  | 4 | 6 | 9 | 11 => 30
  | 1 | 3 | 5 | 7 | 8 | 10 | 12 => 31
  | _ => 0

/-- A day of the calendar. -/
structure Date where
  year : Int
  month : Nat
  day : Nat
  deriving DecidableEq

namespace Date

/-- The first and the last year that dates reach. -/
def firstYear : Int := -262143
def lastYear : Int := 262142

def isValid (date : Date) : Bool :=
  firstYear ≤ date.year && date.year ≤ lastYear && 1 ≤ date.day
    && date.day ≤ daysInMonth date.year date.month

/-- The day after. -/
def next (date : Date) : Date :=
  if date.day < daysInMonth date.year date.month then { date with day := date.day + 1 }
  else if date.month < 12 then ⟨date.year, date.month + 1, 1⟩
  else ⟨date.year + 1, 1, 1⟩

/-- The day before. -/
def previous (date : Date) : Date :=
  if 1 < date.day then { date with day := date.day - 1 }
  else if 1 < date.month then ⟨date.year, date.month - 1, daysInMonth date.year (date.month - 1)⟩
  else ⟨date.year - 1, 12, 31⟩

/-- Days from the first of January of the year 1970, which is day 0. -/
def unixDay (date : Date) : Int :=
  let years := date.year - 1
  let months := (List.range date.month).drop 1
  let before := months.foldl (fun days month => days + daysInMonth date.year month) 0
  365 * years + years / 4 - years / 100 + years / 400 + before + date.day - 719163

end Date

/-- A time of day; the second 60 is a leap second. -/
structure TimeOfDay where
  hour : Nat
  minute : Nat
  second : Nat
  nano : Nat
  deriving DecidableEq

def TimeOfDay.isValid (time : TimeOfDay) : Bool :=
  time.hour < 24 && time.minute < 60 && time.second ≤ 60 && time.nano < 1000000000

/-- A point of time, in UTC. -/
structure Instant where
  date : Date
  time : TimeOfDay
  valid : date.isValid && time.isValid
  deriving DecidableEq

namespace Instant

/-- The instant that reads so, where the calendar has it. -/
def of? (date : Date) (time : TimeOfDay) : Option Instant :=
  if h : date.isValid && time.isValid then some ⟨date, time, h⟩ else none

/-- The start of the year 1970. -/
def epoch : Instant := ⟨⟨1970, 1, 1⟩, ⟨0, 0, 0, 0⟩, by decide⟩

/-- Milliseconds since the epoch, leap seconds not counted; parts of one are cut off. -/
def unixMillis (instant : Instant) : Int :=
  let seconds := instant.date.unixDay * 86400 + instant.time.hour * 3600 + instant.time.minute * 60
    + instant.time.second
  seconds * 1000 + instant.time.nano / 1000000

/-- The start of its millisecond. -/
def toMillisecond (instant : Instant) : Instant where
  date := instant.date
  time := { instant.time with nano := instant.time.nano / 1000000 * 1000000 }
  valid := by
    have valid := instant.valid
    simp only [TimeOfDay.isValid, Bool.and_eq_true, decide_eq_true_eq] at valid ⊢
    exact ⟨valid.1, valid.2.1, by omega⟩

end Instant
end PathShell
