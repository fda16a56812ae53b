import PathShell.Calc.Machine

/-!
# The grammar of expressions

An expression is a sum of terms, a term a product of operands, and an operand a number or a group
behind any number of signs. Sums and products group from the left. A tree is one derivation: it says
which tokens it derives, how deep its signs and groups nest, and what its value is.
-/

namespace PathShell
namespace Calc

mutual
/-- `term (('+' | '-') term)*` -/
inductive Expr where
  | term (only : Term)
  | sum (left : Expr) (op : SumOp) (right : Term)

/-- `unary (('*' | '/') unary)*` -/
inductive Term where
  | unary (only : Unary)
  | product (left : Term) (op : ProductOp) (right : Unary)

/-- `('+' | '-') unary | primary` -/
inductive Unary where
  | sign (negative : Bool) (operand : Unary)
  | primary (inner : Primary)

/-- `number | '(' expr ')'` -/
inductive Primary where
  | number (value : Float)
  | group (inner : Expr)
end

/-! ## Tokens -/

def SumOp.token : SumOp → Token
  | .add => .plus
  | .subtract => .minus

def ProductOp.token : ProductOp → Token
  | .multiply => .times
  | .divide => .divide

/-- A sign in front of an operand. -/
def signToken (negative : Bool) : Token := if negative then .minus else .plus

mutual
def Expr.tokens : Expr → List Token
  | .term only => only.tokens
  | .sum left op right => left.tokens ++ op.token :: right.tokens

def Term.tokens : Term → List Token
  | .unary only => only.tokens
  | .product left op right => left.tokens ++ op.token :: right.tokens

def Unary.tokens : Unary → List Token
  | .sign negative operand => signToken negative :: operand.tokens
  | .primary inner => inner.tokens

def Primary.tokens : Primary → List Token
  | .number value => [.number value]
  | .group inner => .opening :: (inner.tokens ++ [.closing])
end

/-! ## Values -/

/-- The result of a product, where it is defined. -/
def ProductOp.result : ProductOp → Float → Float → Float
  | .multiply, left, right => left * right
  | .divide, left, right => left / right

mutual
def Expr.value : Expr → Float
  | .term only => only.value
  | .sum left .add right => left.value + right.value
  | .sum left .subtract right => left.value - right.value

def Term.value : Term → Float
  | .unary only => only.value
  | .product left op right => op.result left.value right.value

def Unary.value : Unary → Float
  | .sign negative operand => if negative then -operand.value else operand.value
  | .primary inner => inner.value

def Primary.value : Primary → Float
  | .number value => value
  | .group inner => inner.value
end

/-- The operation is no division by a zero. -/
def ProductOp.Allows (op : ProductOp) (right : Float) : Prop := op = .divide → (right == 0) = false

mutual
/-- Nothing in the tree is divided by a zero. -/
def Expr.NoZeroDivisor : Expr → Prop
  | .term only => only.NoZeroDivisor
  | .sum left _ right => left.NoZeroDivisor ∧ right.NoZeroDivisor

def Term.NoZeroDivisor : Term → Prop
  | .unary only => only.NoZeroDivisor
  | .product left op right => left.NoZeroDivisor ∧ right.NoZeroDivisor ∧ op.Allows right.value

def Unary.NoZeroDivisor : Unary → Prop
  | .sign _ operand => operand.NoZeroDivisor
  | .primary inner => inner.NoZeroDivisor

def Primary.NoZeroDivisor : Primary → Prop
  | .number _ => True
  | .group inner => inner.NoZeroDivisor
end

/-! ## Depth -/

mutual
/-- The most signs and groups on a path from the root to a number. -/
def Expr.depth : Expr → Nat
  | .term only => only.depth
  | .sum left _ right => max left.depth right.depth

def Term.depth : Term → Nat
  | .unary only => only.depth
  | .product left _ right => max left.depth right.depth

def Unary.depth : Unary → Nat
  | .sign _ operand => operand.depth + 1
  | .primary inner => inner.depth

def Primary.depth : Primary → Nat
  | .number _ => 0
  | .group inner => inner.depth + 1
end

/-- The operands of a product, side by side. -/
def Term.operands : Term → List Unary
  | .unary only => [only]
  | .product left _ right => left.operands ++ [right]

/-- The operands of a sum of products, side by side. -/
def Expr.operands : Expr → List Unary
  | .term only => only.operands
  | .sum left _ right => left.operands ++ right.operands

theorem Term.depth_le_iff (term : Term) (limit : Nat) :
    term.depth ≤ limit ↔ ∀ operand ∈ term.operands, operand.depth ≤ limit := by
  match term with
  | .unary only => simp [Term.depth, Term.operands]
  | .product left op right =>
    have ih := Term.depth_le_iff left limit
    simp only [Term.depth, Term.operands, Nat.max_le, ih, List.forall_mem_append,
      List.forall_mem_singleton]

/-- Operands that stand side by side do not add up: each of them nests for itself. -/
theorem Expr.depth_le_iff (expr : Expr) (limit : Nat) :
    expr.depth ≤ limit ↔ ∀ operand ∈ expr.operands, operand.depth ≤ limit := by
  match expr with
  | .term only => exact only.depth_le_iff limit
  | .sum left op right =>
    have ih := Expr.depth_le_iff left limit
    have last := right.depth_le_iff limit
    simp only [Expr.depth, Expr.operands, Nat.max_le, ih, last, List.forall_mem_append]

end Calc
end PathShell
