import PathShell.Pattern.Class
import PathShell.Text.Alphanumeric

/-!
# Patterns

Which texts are regular expressions, and not too high. A pattern is read sign by sign; open groups
wait with what stands before them.
-/

namespace PathShell
namespace Pattern

/-! ## Groups -/

/-- What has been read of a group, or of the whole pattern. -/
structure Branches where
  /-- The branches before the last bar. -/
  complete : Row
  /-- The items after it. -/
  items : Row
  /-- The height of the last item, if a sign may repeat it. -/
  last : Option Nat

namespace Branches

def start : Branches := ⟨.empty, .empty, none⟩

/-- One more item. -/
def add (branches : Branches) (height : Nat) : Branches :=
  { branches with items := branches.items.push height, last := some height }

/-- Switches are an item that nothing repeats. -/
def addSwitches (branches : Branches) : Branches :=
  { branches with items := branches.items.push 0, last := none }

/-- The last item is repeated. -/
def repeat? (branches : Branches) : Option Branches :=
  branches.last.map fun height =>
    let items := branches.items
    { branches with
      items := { items with highest := max items.highest (height + 1) }
      last := some (height + 1) }

/-- After a bar. -/
def next (branches : Branches) : Branches :=
  ⟨branches.complete.push branches.items.height, .empty, none⟩

def height (branches : Branches) : Nat := (branches.complete.push branches.items.height).height

end Branches

/-- Where the reading of a pattern stands. -/
structure Reading where
  switches : Switches
  /-- What has been read of the innermost open group. -/
  inner : Branches
  /-- The switches and what has been read around each open group, the innermost first. -/
  around : List (Switches × Branches)
  /-- The names of groups so far. -/
  names : List (List Char)

namespace Reading

def start : Reading := ⟨.start, .start, [], []⟩

/-- One more item. -/
def add (reading : Reading) (height : Nat) : Reading :=
  { reading with inner := reading.inner.add height }

/-- A group opens, with switches of its own. -/
def openGroup (reading : Reading) (switches : Switches) : Reading :=
  { reading with
    switches := switches
    inner := .start
    around := (reading.switches, reading.inner) :: reading.around }

/-- The innermost group closes, and its switches go with it. -/
def closeGroup? (reading : Reading) : Option Reading :=
  match reading.around with
  | [] => none
  | (switches, outer) :: around =>
    some { reading with switches, inner := outer.add (reading.inner.height + 1), around }

end Reading

/-- The name of a group, after its opening sign. No other group has the same. -/
def name? (reading : Reading) (cs : List Char) : Option (Reading × List Char) :=
  let name := cs.takeWhile (· ≠ '>')
  match name, cs.drop name.length with
  | first :: more, _ :: rest =>
    if (first = '_' || Text.isAlphabetic first)
        && more.all (fun c => c = '_' || c = '.' || c = '[' || c = ']' || Text.isAlphanumeric c)
        && !reading.names.contains name then
      some ({ reading with names := name :: reading.names }, rest)
    else none
  | _, _ => none

/-- What stands after an opening parenthesis: a name, switches for the group alone, or switches up to
    the end of the group around them. -/
def group? (reading : Reading) (cs : List Char) : Option (Reading × List Char) :=
  let opened := reading.openGroup reading.switches
  match reading.switches.skip cs with
  | '?' :: 'P' :: '<' :: rest => name? opened rest
  | '?' :: '<' :: rest => name? opened rest
  | '?' :: rest =>
    let letters := rest.takeWhile fun c => c ≠ ':' && c ≠ ')'
    match reading.switches.set? letters, rest.drop letters.length with
    | some switches, ':' :: rest => some (reading.openGroup switches, rest)
    | some switches, ')' :: rest =>
      if letters.isEmpty then none
      else some ({ reading with switches, inner := reading.inner.addSwitches }, rest)
    | _, _ => none
  | rest => some (opened, rest)

/-! ## Patterns -/

/-- One sign, character, class or escape of a pattern, and what follows it. Bounds in braces are not
    among the signs. -/
def item? (reading : Reading) (c : Char) (rest : List Char) : Option (Reading × List Char) :=
  let switches := reading.switches
  if c = '(' then group? reading rest
  else if c = ')' then reading.closeGroup?.map fun reading => (reading, rest)
  else if c = '|' then some ({ reading with inner := reading.inner.next }, rest)
  else if c = '*' ∨ c = '+' ∨ c = '?' then
    reading.inner.repeat?.map fun inner =>
      ({ reading with inner }, if rest.head? = some '?' then rest.tail else rest)
  else if c = '^' ∨ c = '$' then some (reading.add 0, rest)
  else if c = '.' then if switches.unicode then some (reading.add 0, rest) else none
  else if c = '\x7b' then none
  else if c = '[' then
    match openClass? switches rest with
    | none => none
    | some (current, rest) =>
      (class? switches current [] rest).map fun (height, rest) => (reading.add height, rest)
  else if c = '\\' then
    match escape? switches rest with
    | some (.char _, rest) => if switches.matchesLetters then some (reading.add 0, rest) else none
    | some (_, rest) => some (reading.add 0, rest)
    | none => none
  else if switches.matchesLetters then some (reading.add 0, rest)
  else none

/-- A pattern may go on with these characters. -/
def mayGoOn (reading : Reading) (cs : List Char) : Bool :=
  match reading.switches.skip cs with
  | [] => reading.around.isEmpty && reading.inner.height ≤ maxHeight
  | c :: rest =>
    match item? reading c rest with
    | none => false
    | some (reading, next) => if next.length < cs.length then mayGoOn reading next else false
termination_by cs.length

/-- The characters are a pattern. -/
def isWellFormed (cs : List Char) : Bool := mayGoOn .start cs

end Pattern
end PathShell
