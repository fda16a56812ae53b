import PathShell.Pattern.Escape
import PathShell.Pattern.Height

/-!
# Classes in patterns

A class in brackets holds characters, ranges, named sets and other classes; two equal signs between
them take what is in both, in the first alone, or in either alone.
-/

namespace PathShell
namespace Pattern

/-- An open class. -/
structure OpenClass where
  /-- The height of what stands before the last two equal signs, if there are any. -/
  before : Option Nat
  /-- What stands after them. -/
  members : Row
  /-- There is nothing yet, or only dashes. -/
  fresh : Bool

namespace OpenClass

def start : OpenClass := ⟨none, .empty, true⟩

/-- One more member. -/
def add (current : OpenClass) (height : Nat) : OpenClass :=
  { current with members := current.members.push height, fresh := false }

/-- The height of all that it holds. -/
def content (current : OpenClass) : Nat :=
  match current.before with
  | none => current.members.height
  | some before => max before current.members.height + 1

/-- After two equal signs. -/
def next (current : OpenClass) : OpenClass := ⟨some current.content, .empty, false⟩

end OpenClass

/-- The names of sets, which stand in colons and brackets. -/
def setNames : List String :=
  ["alnum", "alpha", "ascii", "blank", "cntrl", "digit", "graph", "lower", "print", "punct", "space",
    "upper", "word", "xdigit"]

/-- Whether a named set is the rest of all characters, and what follows it. The characters begin after
    its opening bracket. -/
def namedSet? : List Char → Option (Bool × List Char)
  | ':' :: cs =>
    let rest := if cs.head? = some '^' then cs.tail else cs
    let name := rest.takeWhile (· ≠ ':')
    match rest.drop name.length with
    | ':' :: ']' :: after =>
      if setNames.contains (String.ofList name) then some (cs.head? = some '^', after) else none
    | _ => none
  | _ => none

/-- A class, after its opening bracket. A caret there takes it for the rest of all characters. -/
def openClass? (switches : Switches) (cs : List Char) : Option (OpenClass × List Char) :=
  match switches.skip cs with
  | '^' :: rest => if switches.unicode then some (.start, rest) else none
  | rest => some (.start, rest)

/-- One character of a class, or a set in it. -/
def member? (switches : Switches) : List Char → Option (Option Char × List Char)
  | [] => none
  | '\\' :: rest =>
    match escape? switches rest with
    | some (.char c, rest) => if switches.holds c then some (some c, rest) else none
    | some (.set, rest) => some (none, rest)
    | _ => none
  | c :: rest => if switches.holds c then some (some c, rest) else none

/-- The character that tells whether the dash before makes a range. Of a comment, the sign and the
    blanks after it are passed over, and not its text. -/
def afterDash? (switches : Switches) (cs : List Char) : Option Char :=
  if !switches.verbose then cs.head?
  else
    match Text.skipBlanks cs with
    | '#' :: rest => (Text.skipBlanks rest).head?
    | rest => rest.head?

/-- What follows a member, or a range: two characters in order with a dash between them. Before a
    closing bracket or another dash, a dash makes no range. -/
def afterMember? (switches : Switches) (cs : List Char) : Option (List Char) :=
  match member? switches cs with
  | none => none
  | some (first, rest) =>
    match switches.skip rest with
    | '-' :: after =>
      let sign := afterDash? switches after
      if sign = some ']' || sign = some '-' then some ('-' :: after)
      else
        match first, member? switches (switches.skip after) with
        | some low, some (some high, rest) => if low ≤ high then some rest else none
        | _, _ => none
    | rest => some rest

/-- A member of a class that is no class itself, or two equal signs. Dashes at the front stand for
    themselves, and so does a closing bracket before all else. -/
def part? (switches : Switches) (current : OpenClass) (cs : List Char) :
    Option (OpenClass × List Char) :=
  let literal (fresh : Bool) (rest : List Char) : Option (OpenClass × List Char) :=
    if switches.matchesLetters then some ({ current.add 0 with fresh := fresh }, rest) else none
  match current.fresh, cs with
  | true, '-' :: rest => literal true rest
  | true, ']' :: rest => literal false rest
  | _, '&' :: '&' :: rest => some (current.next, rest)
  | _, '-' :: '-' :: rest => some (current.next, rest)
  | _, '~' :: '~' :: rest => some (current.next, rest)
  | _, _ => (afterMember? switches cs).bind (literal false)

/-- A class that opens in another, or a named set or a part in it: the classes that are open then, and
    what follows. -/
def advance? (switches : Switches) (current : OpenClass) (outer : List OpenClass) :
    List Char → Option ((OpenClass × List OpenClass) × List Char)
  | '[' :: rest =>
    match namedSet? rest with
    | some (isRest, rest) =>
      if switches.matchesLetters && (switches.unicode || !isRest) then
        some ((current.add 0, outer), rest)
      else none
    | none => (openClass? switches rest).map fun (inner, rest) => ((inner, current :: outer), rest)
  | cs => (part? switches current cs).map fun (current, rest) => ((current, outer), rest)

/-- The height of a class, and what follows it. `outer` are the open classes around it, the innermost
    first. -/
def class? (switches : Switches) (current : OpenClass) (outer : List OpenClass) (cs : List Char) :
    Option (Nat × List Char) :=
  match switches.skip cs with
  | [] => none
  | c :: rest =>
    if c = ']' && !(current.fresh && current.members.count = 0) then
      match outer with
      | [] => some (current.content + 1, rest)
      | around :: outer =>
        if rest.length < cs.length then
          class? switches (around.add (current.content + 1)) outer rest
        else none
    else
      match advance? switches current outer (c :: rest) with
      | none => none
      | some ((current, outer), next) =>
        if next.length < cs.length then class? switches current outer next else none
termination_by cs.length

end Pattern
end PathShell
