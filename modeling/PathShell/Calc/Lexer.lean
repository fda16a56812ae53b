import PathShell.Calc.Token

/-!
# Reading tokens

An expression is cut into lexemes: each maximal run of digits and points, and each other character
by itself. Then every lexeme but a blank is one token, and the leftmost lexeme that is none fails.
-/

namespace PathShell
namespace Calc

/-- A character that numbers are written with. -/
def isNumeral (c : Char) : Bool := c.isDigit || c = '.'

/-- Maximal runs of numerals, and single characters. -/
def lexemes : List Char → List (List Char)
  | [] => []
  | c :: cs =>
    match lexemes cs with
    | (d :: run) :: rest =>
      if isNumeral c && isNumeral d then (c :: d :: run) :: rest else [c] :: (d :: run) :: rest
    | other => [c] :: other

/-- A run with at least one digit and at most one point. -/
def isNumber (run : List Char) : Bool :=
  run.any Char.isDigit && run.count '.' ≤ 1

/-- The number nearest to the decimal that a run writes. -/
def numberValue (run : List Char) : Float :=
  let places := (run.dropWhile (· ≠ '.')).drop 1
  Float.ofScientific (Nat.ofDigitChars 10 (run.filter Char.isDigit) 0) true places.length

/-- The token of a character that is one by itself. -/
def symbol? : Char → Option Token
  | '+' => some .plus
  | '-' => some .minus
  | '*' => some .times
  | '/' => some .divide
  | '(' => some .opening
  | ')' => some .closing
  | _ => none

/-- What a lexeme stands for: nothing for a blank, else one token. -/
def ofLexeme : List Char → Except Failure (Option Token)
  | [] => .ok none
  | c :: cs =>
    if isNumeral c then
      if isNumber (c :: cs) then .ok (some (.number (numberValue (c :: cs))))
      else .error (.badNumber (String.ofList (c :: cs)))
    else if c = ' ' ∨ c = '\t' then .ok none
    else
      match symbol? c with
      | some token => .ok (some token)
      | none => .error (.unexpectedChar c)

/-- The tokens of a list of lexemes, or the failure of the first that has none. -/
def ofLexemes : List (List Char) → Except Failure (List Token)
  | [] => .ok []
  | lexeme :: rest =>
    match ofLexeme lexeme with
    | .error failure => .error failure
    | .ok token => (ofLexemes rest).map (token.toList ++ ·)

/-- The tokens of an expression. -/
def tokens (expression : String) : Except Failure (List Token) :=
  ofLexemes (lexemes expression.toList)

end Calc
end PathShell
