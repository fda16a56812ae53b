import PathShell.Json

/-!
# Writing JSON

In a string only the quote, the backslash and control characters are escaped. The compact form has no
blanks; the indented form has a line per item, two blanks deeper on each level.
-/

namespace PathShell
namespace Json

/-- A hexadecimal digit, in lower case. -/
def hexDigit (n : Nat) : Char := Nat.digitChar (n % 16)

/-- One character inside a string. -/
def escapeChar (c : Char) : List Char :=
  if c = '\x22' then ['\\', '\x22']
  else if c = '\\' then ['\\', '\\']
  else if c = '\x08' then ['\\', 'b']
  else if c = '\x0c' then ['\\', 'f']
  else if c = '\n' then ['\\', 'n']
  else if c = '\r' then ['\\', 'r']
  else if c = '\t' then ['\\', 't']
  else if c.toNat < 0x20 then ['\\', 'u', '0', '0', hexDigit (c.toNat / 16), hexDigit c.toNat]
  else [c]

/-- A string in quotes. -/
def quote (text : String) : List Char :=
  '\x22' :: text.toList.flatMap escapeChar ++ ['\x22']

mutual

/-- The compact form. -/
def Value.compactChars : Value → List Char
  | .null => ['n', 'u', 'l', 'l']
  | .bool true => ['t', 'r', 'u', 'e']
  | .bool false => ['f', 'a', 'l', 's', 'e']
  | .number text => text.toList
  | .string text => quote text
  | .array items => '[' :: compactItems items ++ [']']
  | .object members => '\x7b' :: compactMembers members ++ ['\x7d']

def compactItems : List Value → List Char
  | [] => []
  | [item] => item.compactChars
  | item :: rest => item.compactChars ++ ',' :: compactItems rest

def compactMembers : List (String × Value) → List Char
  | [] => []
  | [(key, value)] => quote key ++ ':' :: value.compactChars
  | (key, value) :: rest => quote key ++ ':' :: value.compactChars ++ ',' :: compactMembers rest

end

/-- A new line at a depth. -/
def newLine (depth : Nat) : List Char := '\n' :: List.replicate (2 * depth) ' '

mutual

/-- The indented form of a value that begins at a depth. Empty arrays and objects stay on one line. -/
def Value.indentedChars (depth : Nat) : Value → List Char
  | .null => ['n', 'u', 'l', 'l']
  | .bool true => ['t', 'r', 'u', 'e']
  | .bool false => ['f', 'a', 'l', 's', 'e']
  | .number text => text.toList
  | .string text => quote text
  | .array [] => ['[', ']']
  | .array items => '[' :: indentedItems (depth + 1) items ++ newLine depth ++ [']']
  | .object [] => ['\x7b', '\x7d']
  | .object members => '\x7b' :: indentedMembers (depth + 1) members ++ newLine depth ++ ['\x7d']

def indentedItems (depth : Nat) : List Value → List Char
  | [] => []
  | [item] => newLine depth ++ item.indentedChars depth
  | item :: rest => newLine depth ++ item.indentedChars depth ++ ',' :: indentedItems depth rest

def indentedMembers (depth : Nat) : List (String × Value) → List Char
  | [] => []
  | [(key, value)] => newLine depth ++ quote key ++ ':' :: ' ' :: value.indentedChars depth
  | (key, value) :: rest =>
    newLine depth ++ quote key ++ ':' :: ' ' :: value.indentedChars depth
      ++ ',' :: indentedMembers depth rest

end

/-- The text without blanks. -/
def Value.compact (value : Value) : String := String.ofList value.compactChars

/-- The text with a line per item. -/
def Value.indented (value : Value) : String := String.ofList (value.indentedChars 0)

end Json
end PathShell
