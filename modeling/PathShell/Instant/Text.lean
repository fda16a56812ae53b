import PathShell.Instant
import PathShell.Text.Blank
import PathShell.Text.Digits

/-!
# Instants as text

The written form is `YYYY-MM-DDThh:mm:ss`, then the fewest of 0, 3, 6 or 9 digits of the fraction that
lose nothing, then `Z`; a year outside 0 to 9999 carries a sign. Reading is more lenient: blanks may
stand before numbers and separators, fields may have fewer digits, and a UTC offset may follow.
-/

namespace PathShell
namespace Instant

open Digits (padded)
open Text (skipBlanks)

/-! ## Writing -/

/-- At least four digits; a sign outside 0 to 9999. -/
def yearText (year : Int) : List Char :=
  if 0 ≤ year then
    if year ≤ 9999 then padded 4 year.toNat else '+' :: padded 4 year.toNat
  else '-' :: padded 4 (-year).toNat

/-- Nothing for zero, else thousandths, millionths or billionths, whichever suffice. -/
def fractionText (nano : Nat) : List Char :=
  if nano = 0 then []
  else if nano % 1000000 = 0 then '.' :: padded 3 (nano / 1000000)
  else if nano % 1000 = 0 then '.' :: padded 6 (nano / 1000)
  else '.' :: padded 9 nano

def dateText (date : Date) : List Char :=
  yearText date.year ++ '-' :: padded 2 date.month ++ '-' :: padded 2 date.day

/-- Hour, minute and second, without the fraction. -/
def clockText (time : TimeOfDay) : List Char :=
  padded 2 time.hour ++ ':' :: padded 2 time.minute ++ ':' :: padded 2 time.second

/-- The written form. -/
def text (instant : Instant) : String :=
  String.ofList (dateText instant.date ++ 'T' :: clockText instant.time
    ++ fractionText instant.time.nano ++ ['Z'])

/-- The form of a log line: always six digits of the fraction. -/
def stampText (instant : Instant) : String :=
  String.ofList (dateText instant.date ++ 'T' :: clockText instant.time
    ++ '.' :: padded 6 (instant.time.nano / 1000) ++ ['Z'])

/-! ## Reading -/

/-- A number of one to `most` digits, after blanks. -/
def field? (most : Nat) (cs : List Char) : Option (Nat × List Char) :=
  Digits.read? most (skipBlanks cs)

/-- Four digits at most, or a sign and any number of digits. -/
def year? (cs : List Char) : Option (Int × List Char) :=
  match skipBlanks cs with
  | '-' :: rest => (Digits.read? rest.length rest).map fun (n, rest) => (-(n : Int), rest)
  | '+' :: rest => (Digits.read? rest.length rest).map fun (n, rest) => ((n : Int), rest)
  | rest => (Digits.read? 4 rest).map fun (n, rest) => ((n : Int), rest)

/-- A separator, after blanks. -/
def separator? (separator : Char) (cs : List Char) : Option (List Char) :=
  match skipBlanks cs with
  | c :: rest => if c = separator then some rest else none
  | [] => none

/-- What stands between the date and the time. -/
def betweenDateAndTime? : List Char → Option (List Char)
  | c :: rest => if c = 'T' ∨ c = 't' ∨ c = ' ' then some rest else none
  | [] => none

/-- The nanoseconds of a fraction: a point and at least one digit, of which nine count. No point
    means no fraction. -/
def fraction? : List Char → Option (Nat × List Char)
  | '.' :: rest =>
    (Digits.read? 9 rest).map fun (n, after) =>
      (n * Nat.pow 10 (9 - (rest.length - after.length)), after.dropWhile Char.isDigit)
  | cs => some (0, cs)

/-- Colons and blanks, any number of them. -/
def skipOffsetSeparators (cs : List Char) : List Char :=
  cs.dropWhile fun c => c = ':' || Text.isBlank c

/-- The value of two digits that stand at the front. -/
def twoDigits? : List Char → Option (Nat × List Char)
  | a :: b :: rest =>
    if a.isDigit && b.isDigit then some (Nat.ofDigitChars 10 [a, b] 0, rest) else none
  | _ => none

/-- Hours and minutes of an offset, in minutes. -/
def offsetMinutes? (cs : List Char) : Option (Nat × List Char) :=
  match twoDigits? cs with
  | none => none
  | some (hours, rest) =>
    match twoDigits? (skipOffsetSeparators rest) with
    | none => none
    | some (minutes, rest) =>
      if hours < 24 ∧ minutes < 60 then some (hours * 60 + minutes, rest) else none

/-- `UTC` in either case. -/
def utc? : List Char → Option (List Char)
  | u :: t :: c :: rest =>
    if u.toUpper = 'U' ∧ t.toUpper = 'T' ∧ c.toUpper = 'C' then some rest else none
  | _ => none

/-- Minutes east of UTC. -/
def offset? (cs : List Char) : Option (Int × List Char) :=
  match utc? cs with
  | some rest => some (0, rest)
  | none =>
    match cs with
    | [] => none
    | c :: rest =>
      if c = 'Z' ∨ c = 'z' then some (0, rest)
      else if c = '+' then (offsetMinutes? rest).map fun (n, rest) => ((n : Int), rest)
      else if c = '-' ∨ c = '\u2212' then
        (offsetMinutes? rest).map fun (n, rest) => (-(n : Int), rest)
      else none

def date? (cs : List Char) : Option (Date × List Char) := do
  let (year, cs) ← year? cs
  let cs ← separator? '-' cs
  let (month, cs) ← field? 2 cs
  let cs ← separator? '-' cs
  let (day, cs) ← field? 2 cs
  return (⟨year, month, day⟩, cs)

def time? (cs : List Char) : Option (TimeOfDay × List Char) := do
  let (hour, cs) ← field? 2 cs
  let cs ← separator? ':' cs
  let (minute, cs) ← field? 2 cs
  let cs ← separator? ':' cs
  let (second, cs) ← field? 2 cs
  let (nano, cs) ← fraction? cs
  return (⟨hour, minute, second, nano⟩, cs)

/-- The instant of a reading `east` minutes east of UTC: the offset is taken away, which moves the
    date by at most a day. Both readings have to be in the calendar. -/
def ofLocal? (date : Date) (time : TimeOfDay) (east : Int) : Option Instant :=
  if date.isValid && time.isValid then
    let minutes := (time.hour : Int) * 60 + time.minute - east
    let shifted := minutes % 1440
    let day := if minutes < 0 then date.previous else if 1440 ≤ minutes then date.next else date
    of? day { time with hour := (shifted / 60).toNat, minute := (shifted % 60).toNat }
  else none

/-- The instant that a text writes. -/
def ofText? (text : String) : Option Instant := do
  let (date, cs) ← date? text.toList
  let cs ← betweenDateAndTime? cs
  let (time, cs) ← time? cs
  let (east, cs) ← offset? (skipBlanks cs)
  if (skipBlanks cs).isEmpty then ofLocal? date time east else none

end Instant
end PathShell
