import PathShell.Pattern.Switches
import PathShell.Text.Digits

/-!
# Escapes in patterns
-/

namespace PathShell
namespace Pattern

/-- What an escape stands for. -/
inductive Escape where
  | char (c : Char)
  /-- Any character of a set. -/
  | set
  /-- A place between characters. -/
  | place

/-- The character that a letter after a backslash stands for. -/
def control? (c : Char) : Option Char :=
  if c = 'a' then some '\x07'
  else if c = 'f' then some '\x0c'
  else if c = 'n' then some '\n'
  else if c = 'r' then some '\r'
  else if c = 't' then some '\t'
  else if c = 'v' then some '\x0b'
  else none

/-- How many digits the code point after a letter has; none where the letter begins no such escape. -/
def codePointDigits (c : Char) : Nat :=
  if c = 'x' then 2 else if c = 'u' then 4 else if c = 'U' then 8 else 0

/-- As many characters as said, without what says nothing before each, and what follows them. -/
def spelled? (switches : Switches) : Nat → List Char → Option (List Char × List Char)
  | 0, cs => some ([], cs)
  | count + 1, cs =>
    match switches.skip cs with
    | [] => none
    | c :: rest => (spelled? switches count rest).map fun (more, rest) => (c :: more, rest)

/-- The character whose code point is spelled out after a letter. Two digits are a byte. -/
def spelledCodePoint? (switches : Switches) (digits : Nat) (cs : List Char) :
    Option (Escape × List Char) :=
  match spelled? switches digits cs with
  | none => none
  | some (spelling, rest) =>
    match Digits.codePoint? digits spelling with
    | none => none
    | some c => if digits = 2 && !switches.holds c then none else some (.char c, rest)

/-- An escape, after its backslash. -/
def escape? (switches : Switches) : List Char → Option (Escape × List Char)
  | [] => none
  | c :: rest =>
    let digits := codePointDigits c
    if 0 < digits then spelledCodePoint? switches digits rest
    else if c = 'd' ∨ c = 's' ∨ c = 'w' then if switches.unicode then none else some (.set, rest)
    else if c = 'A' ∨ c = 'z' then some (.place, rest)
    else if c = 'b' ∨ c = 'B' ∨ c = '<' ∨ c = '>' then
      if switches.unicode then none else some (.place, rest)
    else
      match control? c with
      | some plain => some (.char plain, rest)
      | none => if c.isAlphanum || 0x80 ≤ c.toNat then none else some (.char c, rest)

end Pattern
end PathShell
