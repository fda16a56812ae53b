import PathShell.Decimal

/-!
# Tokens and failures of the calculator
-/

namespace PathShell
namespace Calc

/-- One sign of an expression. -/
inductive Token where
  | number (value : Float)
  | plus
  | minus
  | times
  | divide
  | opening
  | closing

/-- How a token is shown in a message. -/
def Token.text : Token → String
  | .number value => Decimal.text value
  | .plus => "+"
  | .minus => "-"
  | .times => "*"
  | .divide => "/"
  | .opening => "("
  | .closing => ")"

/-- The most signs and groups that may stand open at once. -/
def maxDepth : Nat := 200

/-- Why an expression has no value. -/
inductive Failure where
  | unexpectedChar (char : Char)
  | unexpectedToken (token : Token)
  | unexpectedEnd
  | badNumber (literal : String)
  | divisionByZero
  | notFinite
  | tooDeep

def Failure.message : Failure → String
  | .unexpectedChar char => "unexpected character '" ++ String.singleton char ++ "'"
  | .unexpectedToken token => "unexpected token '" ++ token.text ++ "'"
  | .unexpectedEnd => "unexpected end of expression"
  | .badNumber literal => "malformed number '" ++ literal ++ "'"
  | .divisionByZero => "division by zero"
  | .notFinite => "result is not a finite number"
  | .tooDeep => "expression nested deeper than " ++ toString maxDepth ++ " levels"

end Calc
end PathShell
