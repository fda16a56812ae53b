import PathShell.Text.Blank

/-!
# Switches of patterns

What a pattern may switch on and off for the rest of a group. Sets of characters, the ends of words
and the two cases of a letter are known among ASCII characters only: what speaks of them wants the
switch `u` to be off. Where it is off, in turn, nothing may stand for less than a character, as a
point and the rest of all bytes would.
-/

namespace PathShell
namespace Pattern

/-- The switches that bear on what may follow. -/
structure Switches where
  /-- `i`: a letter stands for both its cases. -/
  ignoreCase : Bool
  /-- `u`: characters are those of Unicode. -/
  unicode : Bool
  /-- `x`: blanks and comments say nothing. -/
  verbose : Bool
  deriving DecidableEq

/-- How a pattern begins. -/
def Switches.start : Switches := ⟨false, true, false⟩

/-- The letters of all switches. -/
def switchLetters : List Char := ['i', 'm', 's', 'U', 'u', 'R', 'x']

/-- Letters switch on; those after a dash switch off. Each stands once. -/
def Switches.set? (switches : Switches) (letters : List Char) : Option Switches :=
  let on := letters.takeWhile (· ≠ '-')
  let off := letters.drop on.length
  let after (letter : Char) (before : Bool) : Bool :=
    (before || on.contains letter) && !off.contains letter
  if letters.all (fun c => c = '-' || switchLetters.contains c) && letters.eraseDups = letters
      && letters.getLast? ≠ some '-' then
    some ⟨after 'i' switches.ignoreCase, after 'u' switches.unicode, after 'x' switches.verbose⟩
  else none

/-- Characters and sets of them may stand here. -/
def Switches.matchesLetters (switches : Switches) : Bool :=
  !(switches.ignoreCase && switches.unicode)

/-- A character that a class may hold. -/
def Switches.holds (switches : Switches) (c : Char) : Bool := switches.unicode || c.toNat < 0x80

/-- The characters from the first that is no blank and in no comment. A comment goes up to the end of
    its line. -/
def skipRemarks (inComment : Bool) : List Char → List Char
  | [] => []
  | c :: rest =>
    if inComment then skipRemarks (c ≠ '\n') rest
    else if Text.isBlank c then skipRemarks false rest
    else if c = '#' then skipRemarks true rest
    else c :: rest

/-- The characters from the first that says something. -/
def Switches.skip (switches : Switches) (cs : List Char) : List Char :=
  if switches.verbose then skipRemarks false cs else cs

end Pattern
end PathShell
