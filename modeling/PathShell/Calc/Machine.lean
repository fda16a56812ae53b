import PathShell.Calc.Lexer

/-!
# Evaluation

Expressions are evaluated token by token over a stack of what stands open: the left side of a sum or
of a product, a sign, a group. Products bind before sums, signs before products, and equal operators
group from the left. Signs and groups count toward the depth limit while they stand open. A failure
is raised at the first token that no continuation could mend.
-/

namespace PathShell
namespace Calc

inductive SumOp where
  | add
  | subtract
  deriving DecidableEq

inductive ProductOp where
  | multiply
  | divide
  deriving DecidableEq

/-- What stands open while the rest of an expression is read. -/
inductive Frame where
  /-- The left side of a sum. -/
  | sum (left : Float) (op : SumOp)
  /-- The left side of a product. -/
  | product (left : Float) (op : ProductOp)
  /-- A sign in front of an operand. -/
  | sign (negative : Bool)
  /-- An opening parenthesis. -/
  | group

/-- The frames that stand open, the innermost first. -/
abbrev Stack := List Frame

/-- Where the evaluation stands between two tokens. -/
inductive State where
  /-- An operand has to follow. -/
  | operand (stack : Stack)
  /-- An operand is complete; an operator, a closing parenthesis or the end may follow. -/
  | operator (stack : Stack) (value : Float)

def SumOp.apply : SumOp → Float → Float → Float
  | .add, left, right => left + right
  | .subtract, left, right => left - right

/-- A division by either zero fails. -/
def ProductOp.apply : ProductOp → Float → Float → Except Failure Float
  | .multiply, left, right => .ok (left * right)
  | .divide, left, right => if right == 0 then .error .divisionByZero else .ok (left / right)

/-- Frames that count toward the depth limit. -/
def Frame.nests : Frame → Bool
  | .sign _ | .group => true
  | .sum .. | .product .. => false

def Stack.depth (stack : Stack) : Nat := stack.countP Frame.nests

/-- A sign or a group begins. -/
def enter (frame : Frame) (stack : Stack) : Except Failure State :=
  if maxDepth < Stack.depth (frame :: stack) then .error .tooDeep else .ok (.operand (frame :: stack))

/-- An operand has the value `value`: the signs before it apply, then a product that waits for it. -/
def settle (value : Float) : Stack → Except Failure State
  | .sign negative :: rest => settle (if negative then -value else value) rest
  | .product left op :: rest => (op.apply left value).map (.operator rest)
  | stack => .ok (.operator stack value)

/-- The value of the sum that ends here, and what stood open around it. -/
def total (value : Float) : Stack → Float × Stack
  | .sum left op :: rest => (op.apply left value, rest)
  | stack => (value, stack)

/-- One token. -/
def step : State → Token → Except Failure State
  | .operand stack, .number value => settle value stack
  | .operand stack, .plus => enter (.sign false) stack
  | .operand stack, .minus => enter (.sign true) stack
  | .operand stack, .opening => enter .group stack
  | .operator stack value, .times => .ok (.operand (.product value .multiply :: stack))
  | .operator stack value, .divide => .ok (.operand (.product value .divide :: stack))
  | .operator stack value, .plus =>
    .ok (.operand (.sum (total value stack).1 .add :: (total value stack).2))
  | .operator stack value, .minus =>
    .ok (.operand (.sum (total value stack).1 .subtract :: (total value stack).2))
  | .operator stack value, .closing =>
    match total value stack with
    | (inner, .group :: rest) => settle inner rest
    | _ => .error (.unexpectedToken .closing)
  | _, token => .error (.unexpectedToken token)

/-- The tokens in turn, up to the first failure. -/
def run : State → List Token → Except Failure State
  | state, [] => .ok state
  | state, token :: rest =>
    match step state token with
    | .ok next => run next rest
    | .error failure => .error failure

/-- The value at the end of the tokens: a complete operand with nothing but a sum open. -/
def finish : State → Except Failure Float
  | .operand _ => .error .unexpectedEnd
  | .operator stack value =>
    match total value stack with
    | (result, []) => if result.isFinite then .ok result else .error .notFinite
    | _ => .error .unexpectedEnd

/-- The value of a list of tokens. -/
def value (tokens : List Token) : Except Failure Float :=
  match run (.operand []) tokens with
  | .ok state => finish state
  | .error failure => .error failure

/-- The value of an expression. All of its text is read as tokens before anything is evaluated. -/
def evaluate (expression : String) : Except Failure Float :=
  match tokens expression with
  | .ok list => value list
  | .error failure => .error failure

/-- How a result is shown: whole numbers have no point, and both zeros are `0`. -/
def display (x : Float) : String :=
  if x == 0 then "0" else Decimal.text x

end Calc
end PathShell
