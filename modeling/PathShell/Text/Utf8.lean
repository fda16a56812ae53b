/-!
# UTF-8

Bytes as text. The first sequence that no text begins with is an error; it says where the sequence
begins, and how many bytes of it could have belonged together, or that the bytes end inside it.
-/

namespace PathShell
namespace Text

/-- Why bytes are no text. -/
structure Utf8Error where
  /-- How many bytes before are text. -/
  index : Nat
  /-- The length of the bad sequence; none where the bytes end inside a sequence. -/
  length : Option Nat
  deriving DecidableEq

def Utf8Error.message (error : Utf8Error) : String :=
  match error.length with
  | some length =>
    "invalid utf-8 sequence of " ++ toString length ++ " bytes from index " ++ toString error.index
  | none => "incomplete utf-8 byte sequence from index " ++ toString error.index

/-- The bytes that may come second after a first byte of a sequence of three or four. -/
def secondRange (first : Nat) : Nat × Nat :=
  if first = 0xE0 then (0xA0, 0xBF)
  else if first = 0xED then (0x80, 0x9F)
  else if first = 0xF0 then (0x90, 0xBF)
  else if first = 0xF4 then (0x80, 0x8F)
  else (0x80, 0xBF)

/-- How many bytes follow a first byte; none where it begins no sequence. -/
def following? (first : Nat) : Option Nat :=
  if first < 0x80 then some 0
  else if 0xC2 ≤ first ∧ first ≤ 0xDF then some 1
  else if 0xE0 ≤ first ∧ first ≤ 0xEF then some 2
  else if 0xF0 ≤ first ∧ first ≤ 0xF4 then some 3
  else none

/-- Where the decoding stands: between characters, or inside a sequence that began at `start`. -/
inductive Decoding where
  | between
  /-- `owed` bytes are to come, the next within `low` and `high`; `count` have come, with `bits`. -/
  | inside (start owed low high count bits : Nat)

/-- The characters of bytes. `index` bytes have gone before; the characters read are in reverse. -/
def decodeFrom (read : List Char) (index : Nat) :
    Decoding → List UInt8 → Except Utf8Error (List Char)
  | .between, [] => .ok read.reverse
  | .inside start .., [] => .error ⟨start, none⟩
  | .between, byte :: rest =>
    let first := byte.toNat
    match following? first with
    | none => .error ⟨index, some 1⟩
    | some 0 => decodeFrom (Char.ofNat first :: read) (index + 1) .between rest
    | some owed =>
      let (low, high) := secondRange first
      decodeFrom read (index + 1) (.inside index owed low high 1 (first % Nat.pow 2 (6 - owed))) rest
  | .inside start owed low high count bits, byte :: rest =>
    let next := byte.toNat
    if next < low ∨ high < next then .error ⟨start, some count⟩
    else
      let bits := bits * 64 + next % 64
      if owed ≤ 1 then decodeFrom (Char.ofNat bits :: read) (index + 1) .between rest
      else decodeFrom read (index + 1) (.inside start (owed - 1) 0x80 0xBF (count + 1) bits) rest

/-- The text of bytes. -/
def decode (bytes : List UInt8) : Except Utf8Error String :=
  (decodeFrom [] 0 .between bytes).map String.ofList

/-- Bytes cut after every line feed. -/
def byteLines (current : List UInt8) : List UInt8 → List (List UInt8)
  | [] => if current.isEmpty then [] else [current.reverse]
  | byte :: rest =>
    if byte = 10 then (byte :: current).reverse :: byteLines [] rest
    else byteLines (byte :: current) rest

/-- A line without its end: a line feed, and a carriage return before it. -/
def withoutLineEnd (line : List UInt8) : List UInt8 :=
  if line.getLast? = some 10 then
    let body := line.dropLast
    if body.getLast? = some 13 then body.dropLast else body
  else line

end Text
end PathShell
