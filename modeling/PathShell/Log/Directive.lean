import PathShell.Log
import PathShell.Pattern
import PathShell.Text.Alphanumeric
import PathShell.Text.Blank
import PathShell.Text.Digits
import PathShell.Text.Pieces

/-!
# Log directives

A directive names a level, and may restrict it to targets that begin with a text, to events that have
a field, or to what happens inside a span.
-/

namespace PathShell
namespace Log

inductive Directive where
  /-- Events up to a level; none at all without a level. -/
  | events (target : Option String) (fields : List String) (level : Option Level)
  /-- Events inside named spans, of which this program has none. -/
  | spans
  deriving DecidableEq

/-! ## Levels -/

/-- The level of a name, in either case, or of its rank; `off` is no level. -/
def levelOf? (name : String) : Option (Option Level) :=
  let lower := String.ofList (name.toList.map Char.toLower)
  let digits := match name.toList with
    | '+' :: rest => rest
    | cs => cs
  if !digits.isEmpty && digits.all Char.isDigit then
    match Nat.ofDigitChars 10 digits 0 with
    | 0 => some none
    | 1 => some (some .error)
    | 2 => some (some .warn)
    | 3 => some (some .info)
    | 4 => some (some .debug)
    | 5 => some (some .trace)
    | _ => none
  else if lower = "off" then some none
  else if lower = "error" then some (some .error)
  else if lower = "warn" then some (some .warn)
  else if lower = "info" then some (some .info)
  else if lower = "debug" then some (some .debug)
  else if lower = "trace" then some (some .trace)
  else none

/-- The level that is named from a place on. Where nothing is, all is let through. -/
def levelFrom? (start : Nat) (cs : List Char) : Option (Option Level) :=
  match Text.cut? start cs with
  | some (_, []) => some (some .trace)
  | some (_, name) => levelOf? (String.ofList name)
  | none => none

/-! ## Reading -/

/-- A value that a field can be compared with: a number, or a pattern of texts. -/
def isFieldValue (cs : List Char) : Bool := Digits.isNumeral cs || Pattern.isWellFormed cs

/-- A directive about one field: of all events, or of those inside a span or where the field has a
    value. -/
def fieldDirective? (target : Option String) (inSpan : Bool) (field : List Char)
    (level : Option Level) : Option Directive :=
  match field.splitOn '=' with
  | _ :: value :: _ => if isFieldValue value then some .spans else none
  | _ =>
    if field.isEmpty then none
    else if inSpan then some .spans
    else some (.events target [String.ofList field] level)

/-- What comes after the brackets of a directive: nothing, or the sign and a level. In the whole text
    it comes after `place` bytes. -/
def afterBrackets? (whole : List Char) (place : Nat) : List Char → Option (Option Level)
  | [] => some (some .trace)
  | '=' :: _ => levelFrom? (place + 1) whole
  | _ => none

/-- The part in brackets, after the opening one and after `place` bytes of the whole text: a span, one
    field in braces, or both. -/
def inBrackets? (whole : List Char) (target : Option String) (place : Nat) (cs : List Char) :
    Option Directive :=
  let span := cs.takeWhile fun c => c ≠ ']' && c ≠ '\x7b'
  let start := place + Text.byteSize span + 1
  match cs.drop span.length with
  | ']' :: rest => (afterBrackets? whole start rest).map fun _ => .spans
  | '\x7b' :: rest =>
    let field := rest.takeWhile (· ≠ '\x7d')
    let stop := start + Text.byteSize field
    match rest.drop field.length with
    | '\x7d' :: ']' :: rest =>
      match Text.between? start stop whole, afterBrackets? whole (stop + 2) rest with
      | some field, some level => fieldDirective? target (!span.isEmpty) field level
      | _, _ => none
    | _ => none
  | _ => none

/-- A character that a target may begin with. -/
def beginsTarget (c : Char) : Bool :=
  c = '-' || c = ':' || c = '_' || Text.isAlphanumeric c

/-- The directive of a text. Its signs are looked for in the text without the blanks around it. The
    bytes before each sign are counted there, and as many are counted in the text with its blanks to
    cut the parts from it: blanks in front shift every part, and blanks at the end belong to the last
    one. -/
def directive? (text : String) : Option Directive :=
  let whole := text.toList
  match (Text.trim text).toList with
  | [] => none
  | '[' :: rest => inBrackets? whole none 1 rest
  | c :: rest =>
    let name := (c :: rest).takeWhile fun c => c ≠ '=' && c ≠ '['
    let target := (Text.cut? (Text.byteSize name) whole).map fun (before, _) => String.ofList before
    if !beginsTarget c then none
    else
      match (c :: rest).drop name.length, target with
      | [], _ =>
        match levelOf? text with
        | some level => some (.events none [] level)
        | none => some (.events (some text) [] (some .trace))
      | _, none => none
      | '[' :: rest, target => inBrackets? whole target (Text.byteSize name + 1) rest
      | _, target => (levelFrom? (Text.byteSize name + 1) whole).map (.events target [])

end Log
end PathShell
