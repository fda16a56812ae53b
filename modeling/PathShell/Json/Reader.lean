import PathShell.Json.Token

/-!
# Reading JSON

The tokens of a text are read over a stack of the arrays and objects that stand open. Nothing may
follow the value, and no more than 127 arrays and objects may stand open at once.
-/

namespace PathShell
namespace Json

/-- An array or object that stands open, its parts in reverse. -/
inductive Frame where
  | array (items : List Value)
  | object (members : List (String × Value))
  /-- An object whose member `key` waits for its value. -/
  | field (members : List (String × Value)) (key : String)

/-- What may follow. -/
inductive Expected where
  | value (stack : List Frame)
  /-- A first item, or the end of the array on top. -/
  | itemOrEnd (stack : List Frame)
  /-- A first member, or the end of the object on top. -/
  | memberOrEnd (stack : List Frame)
  | key (members : List (String × Value)) (stack : List Frame)
  | colon (members : List (String × Value)) (key : String) (stack : List Frame)
  /-- A comma, or the end of what is on top. -/
  | separator (stack : List Frame)
  | nothing (value : Value)

/-- The most arrays and objects that may stand open at once. -/
def maxOpen : Nat := 127

/-- A value is complete. -/
def deliver (value : Value) : List Frame → Option Expected
  | [] => some (.nothing value)
  | .array items :: rest => some (.separator (.array (value :: items) :: rest))
  | .field members key :: rest => some (.separator (.object ((key, value) :: members) :: rest))
  | .object _ :: _ => none

/-- A token where a value has to begin. -/
def beginValue (stack : List Frame) : Token → Option Expected
  | .string text => deliver (.string text) stack
  | .scalar value => deliver value stack
  | .openArray => if stack.length < maxOpen then some (.itemOrEnd (.array [] :: stack)) else none
  | .openObject => if stack.length < maxOpen then some (.memberOrEnd (.object [] :: stack)) else none
  | _ => none

/-- One token. -/
def Expected.next? : Expected → Token → Option Expected
  | .value stack, token => beginValue stack token
  | .itemOrEnd (.array [] :: rest), .closeArray => deliver (.array []) rest
  | .itemOrEnd stack, token => beginValue stack token
  | .memberOrEnd (.object [] :: rest), .closeObject => deliver (.object []) rest
  | .memberOrEnd (.object [] :: rest), .string name => some (.colon [] name rest)
  | .key members rest, .string name => some (.colon members name rest)
  | .colon members name rest, .colon => some (.value (.field members name :: rest))
  | .separator (.array items :: rest), .comma => some (.value (.array items :: rest))
  | .separator (.array items :: rest), .closeArray => deliver (.array items.reverse) rest
  | .separator (.object members :: rest), .comma => some (.key members rest)
  | .separator (.object members :: rest), .closeObject => deliver (.object members.reverse) rest
  | _, _ => none

/-- The tokens in turn. -/
def Expected.run? : Expected → List Token → Option Expected
  | expected, [] => some expected
  | expected, token :: rest =>
    match expected.next? token with
    | none => none
    | some next => next.run? rest

/-! ## Characters -/

/-- How far a text has been read. -/
structure Reading where
  mode : Mode
  expected : Expected

/-- Nothing has been read, and a value has to follow. -/
def Reading.start : Reading := ⟨.between, .value []⟩

/-- One character. -/
def Reading.next? (reading : Reading) (c : Char) : Option Reading :=
  match reading.mode.next? c with
  | none => none
  | some (mode, tokens) => (reading.expected.run? tokens).map fun expected => ⟨mode, expected⟩

/-- The characters in turn. -/
def Reading.run? : Reading → List Char → Option Reading
  | reading, [] => some reading
  | reading, c :: cs =>
    match reading.next? c with
    | none => none
    | some next => next.run? cs

/-- The value that has been read, at the end of the text. -/
def Reading.finish? (reading : Reading) : Option Value :=
  match reading.mode.atEnd?.bind reading.expected.run? with
  | some (.nothing value) => some value
  | _ => none

/-- The value that a text writes. -/
def read? (text : String) : Option Value :=
  (Reading.start.run? text.toList).bind Reading.finish?

end Json
end PathShell
