import PathShell.Text.Unprintable

/-!
# Quoted texts

A text in quotes, as log lines and messages show it: what would not be seen, or would be misread, is
escaped.
-/

namespace PathShell
namespace Text

/-- A code point in lower-case hexadecimal digits, between braces. -/
def codePointEscape (c : Char) : List Char :=
  ['\\', 'u', '\x7b'] ++ Nat.toDigits 16 c.toNat ++ ['\x7d']

/-- One character between the quotes. -/
def quotedChar (c : Char) : List Char :=
  if c = '\x22' then ['\\', '\x22']
  else if c = '\\' then ['\\', '\\']
  else if c = '\n' then ['\\', 'n']
  else if c = '\r' then ['\\', 'r']
  else if c = '\t' then ['\\', 't']
  else if c = '\x00' then ['\\', '0']
  else if isUnprintable c then codePointEscape c
  else [c]

/-- A text in quotes. -/
def quoted (text : String) : String :=
  String.ofList ('\x22' :: text.toList.flatMap quotedChar ++ ['\x22'])

end Text
end PathShell
