import PathShell.Json
import PathShell.Json.Number
import PathShell.Text.Digits

/-!
# JSON tokens

A text is read character by character. The mode says what the reading stands in; each character leads
to another mode and may complete tokens.
-/

namespace PathShell
namespace Json

inductive Token where
  | openObject
  | closeObject
  | openArray
  | closeArray
  | colon
  | comma
  | string (text : String)
  /-- A number, `true`, `false` or `null`. -/
  | scalar (value : Value)

/-- What the next character continues. Characters read so far are held in reverse. -/
inductive Mode where
  | between
  /-- A run of letters, digits, signs and points. -/
  | word (read : List Char)
  | text (read : List Char)
  /-- After the backslash. -/
  | escape (read : List Char)
  /-- Inside the four digits of a code unit; `high` is a first half that waits for its second. -/
  | unit (read : List Char) (high : Option Nat) (value count : Nat)
  /-- After a first half: a backslash has to follow. -/
  | half (read : List Char) (high : Nat)
  /-- After that backslash. -/
  | halfEscape (read : List Char) (high : Nat)

/-- White space between tokens. -/
def isSpace (c : Char) : Bool := c = ' ' || c = '\t' || c = '\n' || c = '\r'

def isWordChar (c : Char) : Bool :=
  c.isAlphanum || c = '+' || c = '-' || c = '.'

/-- The token of a punctuation mark. -/
def mark? (c : Char) : Option Token :=
  if c = '\x7b' then some .openObject
  else if c = '\x7d' then some .closeObject
  else if c = '[' then some .openArray
  else if c = ']' then some .closeArray
  else if c = ':' then some .colon
  else if c = ',' then some .comma
  else none

/-- The token of a word. -/
def ofWord? (word : List Char) : Option Token :=
  if word = ['t', 'r', 'u', 'e'] then some (.scalar (.bool true))
  else if word = ['f', 'a', 'l', 's', 'e'] then some (.scalar (.bool false))
  else if word = ['n', 'u', 'l', 'l'] then some (.scalar .null)
  else if isNumber word then some (.scalar (.number (String.ofList word)))
  else none

/-- A character that begins something new. -/
def begin? (c : Char) : Option (Mode × List Token) :=
  if isSpace c then some (.between, [])
  else if c = '\x22' then some (.text [], [])
  else
    match mark? c with
    | some token => some (.between, [token])
    | none => if isWordChar c then some (.word [c], []) else none

/-- The character that a one-letter escape stands for. -/
def unescape? (c : Char) : Option Char :=
  if c = '\x22' then some '\x22'
  else if c = '\\' then some '\\'
  else if c = '/' then some '/'
  else if c = 'b' then some '\x08'
  else if c = 'f' then some '\x0c'
  else if c = 'n' then some '\n'
  else if c = 'r' then some '\r'
  else if c = 't' then some '\t'
  else none

/-- A complete code unit: a character, the second half of one, or a first half that has to wait. -/
def ofUnit? (read : List Char) (high : Option Nat) (value : Nat) : Option Mode :=
  match high with
  | some first =>
    if 0xDC00 ≤ value ∧ value ≤ 0xDFFF then
      some (.text (Char.ofNat (0x10000 + (first - 0xD800) * 0x400 + (value - 0xDC00)) :: read))
    else none
  | none =>
    if 0xD800 ≤ value ∧ value ≤ 0xDBFF then some (.half read value)
    else if 0xDC00 ≤ value ∧ value ≤ 0xDFFF then none
    else some (.text (Char.ofNat value :: read))

/-- One character: the mode after it, and the tokens that it completes. -/
def Mode.next? : Mode → Char → Option (Mode × List Token)
  | .between, c => begin? c
  | .word read, c =>
    if isWordChar c then some (.word (c :: read), [])
    else
      match ofWord? read.reverse, begin? c with
      | some token, some (mode, tokens) => some (mode, token :: tokens)
      | _, _ => none
  | .text read, c =>
    if c = '\x22' then some (.between, [.string (String.ofList read.reverse)])
    else if c = '\\' then some (.escape read, [])
    else if c.toNat < 0x20 then none
    else some (.text (c :: read), [])
  | .escape read, c =>
    if c = 'u' then some (.unit read none 0 0, [])
    else (unescape? c).map fun plain => (.text (plain :: read), [])
  | .unit read high value count, c =>
    match Digits.hexValue? c with
    | none => none
    | some digit =>
      if count < 3 then some (.unit read high (16 * value + digit) (count + 1), [])
      else (ofUnit? read high (16 * value + digit)).map fun mode => (mode, [])
  | .half read high, c => if c = '\\' then some (.halfEscape read high, []) else none
  | .halfEscape read high, c => if c = 'u' then some (.unit read (some high) 0 0, []) else none

/-- The token that the end of the text completes. -/
def Mode.atEnd? : Mode → Option (List Token)
  | .between => some []
  | .word read => (ofWord? read.reverse).map ([·])
  | _ => none

end Json
end PathShell
