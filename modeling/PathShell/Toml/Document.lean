import PathShell.Toml.Scalar

/-!
# TOML documents

A document is a list of sections: the assignments before the first header, and then each header with
the assignments under it. No key is defined twice, and a table that a header or braces have made is
not added to from elsewhere.
-/

namespace PathShell
namespace Toml

/-! ## Adding to tables -/

/-- The entries with the value of a key replaced. -/
def replace (key : String) (value : Value) (entries : Entries) : Entries :=
  entries.map fun entry => if entry.1 = key then (key, value) else entry

/-- The value of a dotted key. The tables on the way are made where they are missing; those that a
    header or braces have made are not entered. -/
def assign (key : String) (value : Value) : List String → Entries → Option Entries
  | [], entries => if (entries.lookup key).isSome then none else some (entries ++ [(key, value)])
  | step :: path, entries =>
    match entries.lookup step with
    | none => (assign key value path []).map fun inner => entries ++ [(step, .table .dotted inner)]
    | some (.table kind inner) =>
      if kind = .dotted || (kind = .implicit && !path.isEmpty) then
        (assign key value path inner).map fun inner => replace step (.table kind inner) entries
      else none
    | some _ => none

/-- A value that a header stands for: made anew, or from what was there. -/
abbrev Making := Option Value → Option Value

/-- The table of a header is new, or was only on the way to another header. -/
def makeTable (build : Entries → Option Entries) : Making
  | none => (build []).map (.table .header)
  | some (.table .implicit entries) => (build entries).map (.table .header)
  | some _ => none

/-- One more table of an array. -/
def makeElement (build : Entries → Option Entries) : Making
  | none => (build []).map (.tables [])
  | some (.tables earlier last) => (build []).map (.tables (earlier ++ [last]))
  | some _ => none

/-- A header with its path. Of an array on the way, the last table is entered. -/
def underHeader (making : Making) (key : String) : List String → Entries → Option Entries
  | [], entries =>
    match entries.lookup key with
    | none => (making none).map fun value => entries ++ [(key, value)]
    | some old => (making (some old)).map fun value => replace key value entries
  | step :: path, entries =>
    match entries.lookup step with
    | none =>
      (underHeader making key path []).map fun inner => entries ++ [(step, .table .implicit inner)]
    | some (.table kind inner) =>
      if kind = .inlined then none
      else
        (underHeader making key path inner).map fun inner => replace step (.table kind inner) entries
    | some (.tables earlier last) =>
      (underHeader making key path last).map fun last => replace step (.tables earlier last) entries
    | some _ => none

/-! ## Keys and values -/

/-- How deep a document may be: as many arrays and tables may stand open at once, and as many parts
    may a key have. -/
def maxDepth : Nat := 79

/-- A key of letters, digits, underscores and dashes, or a text on one line. -/
def simpleKey? (cs : List Char) : Option (String × List Char) :=
  match cs with
  | '\x22' :: rest => basicText? [] 0 rest
  | '\x27' :: rest => literalText? [] rest
  | _ =>
    let bare := cs.takeWhile fun c => c.isAlphanum || c = '_' || c = '-'
    if bare.isEmpty then none else some (String.ofList bare, cs.drop bare.length)

/-- A key with points between its parts: the parts on the way, and the last one. -/
def keyParts? (cs : List Char) : Option ((List String × String) × List Char) :=
  match simpleKey? (skipBlanks cs) with
  | none => none
  | some (part, rest) =>
    match skipBlanks rest with
    | '.' :: after =>
      if after.length < cs.length then
        (keyParts? after).map fun ((path, last), rest) => ((part :: path, last), rest)
      else none
    | rest => some (([], part), rest)
termination_by cs.length

/-- A key that is no deeper than a document may be. -/
def key? (cs : List Char) : Option ((List String × String) × List Char) :=
  match keyParts? cs with
  | some ((path, last), rest) => if path.length < maxDepth then some ((path, last), rest) else none
  | none => none

/-- An assignment: a key, where it goes, and its value. -/
structure Assignment where
  path : List String
  key : String
  value : Value

/-- How a part of a document is read from the front of a text. -/
abbrev Reader (α : Type) := List Char → Option (α × List Char)

/-- A key, the sign and a value. -/
def assignment? (value? : Reader Value) : Reader Assignment := fun cs =>
  match key? cs with
  | some ((path, key), '=' :: rest) =>
    (value? (skipBlanks rest)).map fun (value, rest) => (⟨path, key, value⟩, rest)
  | _ => none

/-- The items of an array, after its opening bracket. Blanks, line ends and comments may stand between
    them, and a comma after the last. -/
def items? (value? : Reader Value) (cs : List Char) : Option (List Value × List Char) :=
  match skipTrivia false cs with
  | ']' :: rest => some ([], rest)
  | start =>
    match value? start with
    | none => none
    | some (value, rest) =>
      match skipTrivia false rest with
      | ']' :: rest => some ([value], rest)
      | ',' :: rest =>
        if rest.length < cs.length then
          (items? value? rest).map fun (values, rest) => (value :: values, rest)
        else none
      | _ => none
termination_by cs.length

/-- The assignments of a table in braces, after the first; on one line, without a comma at the end. -/
def moreAssignments? (value? : Reader Value) (cs : List Char) :
    Option (List Assignment × List Char) :=
  match skipBlanks cs with
  | '\x7d' :: rest => some ([], rest)
  | ',' :: rest =>
    match assignment? value? rest with
    | none => none
    | some (assignment, after) =>
      if after.length < cs.length then
        (moreAssignments? value? after).map fun (more, rest) => (assignment :: more, rest)
      else none
  | _ => none
termination_by cs.length

/-- The assignments of a table in braces, after the opening brace. -/
def assignments? (value? : Reader Value) (cs : List Char) : Option (List Assignment × List Char) :=
  match skipBlanks cs with
  | '\x7d' :: rest => some ([], rest)
  | start =>
    match assignment? value? start with
    | none => none
    | some (assignment, rest) =>
      (moreAssignments? value? rest).map fun (more, rest) => (assignment :: more, rest)

/-- Assignments in turn. -/
def assignAll : List Assignment → Entries → Option Entries
  | [], entries => some entries
  | assignment :: rest, entries =>
    (assign assignment.key assignment.value assignment.path entries).bind (assignAll rest)

/-- A value in which `depth` arrays and tables may still open. -/
def value? : Nat → Reader Value
  | _, [] => none
  | depth, c :: rest =>
    if c = '\x22' ∨ c = '\x27' then (text? (c :: rest)).map fun (text, rest) => (.string text, rest)
    else if c = '[' then
      match depth with
      | 0 => none
      | depth + 1 => (items? (value? depth) rest).map fun (items, rest) => (.array items, rest)
    else if c = '\x7b' then
      match depth with
      | 0 => none
      | depth + 1 =>
        match assignments? (value? depth) rest with
        | none => none
        | some (assignments, rest) =>
          (assignAll assignments []).map fun entries => (.table .inlined entries, rest)
    else scalar? (c :: rest)

/-! ## Documents -/

/-- One line of a document that says something. -/
inductive Statement where
  | assignment (assignment : Assignment)
  | table (path : List String) (key : String)
  | element (path : List String) (key : String)

/-- A statement, up to the end of its line. -/
def statement? : Reader Statement := fun cs =>
  match cs with
  | '[' :: '[' :: rest =>
    match key? rest with
    | some ((path, key), ']' :: ']' :: rest) => some (.element path key, rest)
    | _ => none
  | '[' :: rest =>
    match key? rest with
    | some ((path, key), ']' :: rest) => some (.table path key, rest)
    | _ => none
  | _ =>
    (assignment? (value? maxDepth) cs).map fun (assignment, rest) => (.assignment assignment, rest)

/-- The statements of a text, one to a line. -/
def statements? (cs : List Char) : Option (List Statement) :=
  match skipTrivia false cs with
  | [] => some []
  | start =>
    match statement? start with
    | none => none
    | some (statement, rest) =>
      match lineEnd? rest with
      | none => none
      | some rest =>
        if rest.length < cs.length then (statements? rest).map (statement :: ·) else none
termination_by cs.length

/-- Statements in turn. `place` puts the assignments `pending`, the last first, where the header above
    them says. -/
def build? (place : (Entries → Option Entries) → Entries → Option Entries)
    (pending : List Assignment) : List Statement → Entries → Option Entries
  | [], entries => place (assignAll pending.reverse) entries
  | .assignment assignment :: rest, entries => build? place (assignment :: pending) rest entries
  | .table path key :: rest, entries =>
    (place (assignAll pending.reverse) entries).bind
      (build? (fun build => underHeader (makeTable build) key path) [] rest)
  | .element path key :: rest, entries =>
    (place (assignAll pending.reverse) entries).bind
      (build? (fun build => underHeader (makeElement build) key path) [] rest)

/-- The root table of a document. A byte order mark at its start does not count. -/
def read? (text : String) : Option Entries :=
  let cs := match text.toList with
    | '\ufeff' :: rest => rest
    | cs => cs
  (statements? cs).bind fun statements => build? (fun build => build) [] statements []

end Toml
end PathShell
