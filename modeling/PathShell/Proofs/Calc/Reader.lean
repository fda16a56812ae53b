import PathShell.Proofs.Calc.Grammar

/-!
# Reading trees

Tokens are read into a tree one after the other, over a stack of what stands open: the evaluation
without its values and its limits. What is read writes exactly the tokens so far, and the tokens of a
tree are read into that tree; so a list of tokens has at most one derivation.
-/

namespace PathShell
namespace Calc

/-- What stands open while the rest of a tree is read. -/
inductive Piece where
  | sum (left : Expr) (op : SumOp)
  | product (left : Term) (op : ProductOp)
  | sign (negative : Bool)
  | group

/-- Where the reading of a tree stands between two tokens; the innermost piece first. -/
inductive Reading where
  /-- An operand has to follow. -/
  | operand (pieces : List Piece)
  /-- A term is complete so far. -/
  | operator (pieces : List Piece) (term : Term)

/-- An operand is complete: the signs before it belong to it, and so does a product that waits. -/
def settled (operand : Unary) : List Piece → Reading
  | .sign negative :: outer => settled (.sign negative operand) outer
  | .product left op :: outer => .operator outer (.product left op operand)
  | pieces => .operator pieces (.unary operand)

/-- The sum that ends with a term, and what stands open around it. -/
def gathered (term : Term) : List Piece → Expr × List Piece
  | .sum left op :: outer => (.sum left op term, outer)
  | pieces => (.term term, pieces)

namespace Reading

/-- One token more; none where it cannot follow. -/
def next : Reading → Token → Option Reading
  | .operand pieces, .number value => some (settled (.primary (.number value)) pieces)
  | .operand pieces, .plus => some (.operand (.sign false :: pieces))
  | .operand pieces, .minus => some (.operand (.sign true :: pieces))
  | .operand pieces, .opening => some (.operand (.group :: pieces))
  | .operator pieces term, .times => some (.operand (.product term .multiply :: pieces))
  | .operator pieces term, .divide => some (.operand (.product term .divide :: pieces))
  | .operator pieces term, .plus =>
    some (.operand (.sum (gathered term pieces).1 .add :: (gathered term pieces).2))
  | .operator pieces term, .minus =>
    some (.operand (.sum (gathered term pieces).1 .subtract :: (gathered term pieces).2))
  | .operator pieces term, .closing =>
    match gathered term pieces with
    | (inner, .group :: outer) => some (settled (.primary (.group inner)) outer)
    | _ => none
  | _, _ => none

/-- Tokens in turn. -/
def nextAll (reading : Reading) (tokens : List Token) : Option Reading := tokens.foldlM next reading

/-- The tree that is read, if nothing is missing. -/
def result? : Reading → Option Expr
  | .operand _ => none
  | .operator pieces term =>
    match gathered term pieces with
    | (expr, []) => some expr
    | _ => none

@[simp] theorem nextAll_nil (reading : Reading) : reading.nextAll [] = some reading := rfl

theorem nextAll_cons (reading : Reading) (token : Token) (rest : List Token) :
    reading.nextAll (token :: rest) = (reading.next token).bind (·.nextAll rest) := rfl

theorem nextAll_append (reading : Reading) (first second : List Token) :
    reading.nextAll (first ++ second) = (reading.nextAll first).bind (·.nextAll second) :=
  List.foldlM_append

/-- Which tokens can follow, and what is read with each of them. -/
inductive Follows : Reading → Token → Reading → Prop where
  | number (pieces : List Piece) (value : Float) :
    Follows (.operand pieces) (.number value) (settled (.primary (.number value)) pieces)
  | sign (pieces : List Piece) (negative : Bool) :
    Follows (.operand pieces) (signToken negative) (.operand (.sign negative :: pieces))
  | opening (pieces : List Piece) :
    Follows (.operand pieces) .opening (.operand (.group :: pieces))
  | product (pieces : List Piece) (term : Term) (op : ProductOp) :
    Follows (.operator pieces term) op.token (.operand (.product term op :: pieces))
  | sum (pieces : List Piece) (term : Term) (op : SumOp) :
    Follows (.operator pieces term) op.token
      (.operand (.sum (gathered term pieces).1 op :: (gathered term pieces).2))
  | closing (pieces : List Piece) (term : Term) {inner : Expr} {outer : List Piece}
      (gathering : gathered term pieces = (inner, .group :: outer)) :
    Follows (.operator pieces term) .closing (settled (.primary (.group inner)) outer)

theorem follows_of_next {reading after : Reading} {token : Token}
    (read : reading.next token = some after) : Follows reading token after := by
  cases reading with
  | operand pieces =>
    cases token with
    | number value => cases read; exact .number pieces value
    | plus => cases read; exact .sign pieces false
    | minus => cases read; exact .sign pieces true
    | opening => cases read; exact .opening pieces
    | times => cases read
    | divide => cases read
    | closing => cases read
  | operator pieces term =>
    cases token with
    | number value => cases read
    | opening => cases read
    | times => cases read; exact .product pieces term .multiply
    | divide => cases read; exact .product pieces term .divide
    | plus => cases read; exact .sum pieces term .add
    | minus => cases read; exact .sum pieces term .subtract
    | closing =>
      rw [next] at read
      split at read
      · next inner outer gathering => cases read; exact .closing pieces term gathering
      · cases read

theorem next_of_follows {reading after : Reading} {token : Token}
    (follows : Follows reading token after) : reading.next token = some after := by
  cases follows with
  | number pieces value => rfl
  | sign pieces negative => cases negative <;> rfl
  | opening pieces => rfl
  | product pieces term op => cases op <;> rfl
  | sum pieces term op => cases op <;> rfl
  | closing pieces term gathering => simp [next, gathering]

end Reading

/-- The tree that tokens derive from. -/
def Expr.ofTokens? (tokens : List Token) : Option Expr :=
  (Reading.nextAll (.operand []) tokens).bind Reading.result?

/-! ## What is read writes the tokens so far -/

def Piece.tokens : Piece → List Token
  | .sum left op => left.tokens ++ [op.token]
  | .product left op => left.tokens ++ [op.token]
  | .sign negative => [signToken negative]
  | .group => [.opening]

/-- The tokens of what stands open; the innermost come last. -/
def openTokens : List Piece → List Token
  | [] => []
  | piece :: outer => openTokens outer ++ piece.tokens

def Reading.tokens : Reading → List Token
  | .operand pieces => openTokens pieces
  | .operator pieces term => openTokens pieces ++ term.tokens

theorem tokens_settled (operand : Unary) (pieces : List Piece) :
    (settled operand pieces).tokens = openTokens pieces ++ operand.tokens := by
  induction pieces generalizing operand with
  | nil => rfl
  | cons piece outer ih =>
    cases piece with
    | sum left op => rfl
    | product left op =>
      simp [settled, Reading.tokens, openTokens, Piece.tokens, Term.tokens, List.append_assoc]
    | sign negative => simp [settled, ih, openTokens, Piece.tokens, Unary.tokens]
    | group => rfl

theorem tokens_gathered (term : Term) (pieces : List Piece) :
    openTokens (gathered term pieces).2 ++ (gathered term pieces).1.tokens =
      openTokens pieces ++ term.tokens := by
  match pieces with
  | [] => rfl
  | .sum left op :: outer => simp [gathered, openTokens, Piece.tokens, Expr.tokens]
  | .product .. :: _ => rfl
  | .sign _ :: _ => rfl
  | .group :: _ => rfl

namespace Reading

theorem tokens_of_follows {reading after : Reading} {token : Token}
    (follows : Follows reading token after) : after.tokens = reading.tokens ++ [token] := by
  cases follows with
  | number pieces value => exact tokens_settled _ pieces
  | sign pieces negative => rfl
  | opening pieces => rfl
  | product pieces term op => simp [tokens, openTokens, Piece.tokens]
  | sum pieces term op =>
    simp only [tokens, openTokens, Piece.tokens, ← List.append_assoc, tokens_gathered]
  | closing pieces term gathering =>
    have whole := tokens_gathered term pieces
    rw [gathering] at whole
    simp only [openTokens, Piece.tokens] at whole
    rw [tokens_settled, tokens, ← whole]
    simp [Unary.tokens, Primary.tokens]

theorem tokens_nextAll {reading after : Reading} {tokens : List Token}
    (read : reading.nextAll tokens = some after) :
    after.tokens = reading.tokens ++ tokens := by
  induction tokens generalizing reading with
  | nil => cases read; simp
  | cons token rest ih =>
    rw [nextAll_cons, Option.bind_eq_some_iff] at read
    obtain ⟨between, first, others⟩ := read
    rw [ih others, tokens_of_follows (follows_of_next first)]
    simp

theorem tokens_of_result? {reading : Reading} {expr : Expr} (complete : reading.result? = some expr) :
    reading.tokens = expr.tokens := by
  cases reading with
  | operand pieces => cases complete
  | operator pieces term =>
    have whole := tokens_gathered term pieces
    rw [result?] at complete
    split at complete
    · next same gathering =>
      cases complete
      rw [gathering] at whole
      exact whole.symm
    · cases complete

end Reading

/-! ## The tokens of a tree are read into it -/

/-- A term begins where neither a sign nor a product waits for its operand. -/
def TermBegins : List Piece → Prop
  | .sign _ :: _ => False
  | .product .. :: _ => False
  | _ => True

/-- An expression begins where nothing stands open, or a group. -/
def ExprBegins : List Piece → Prop
  | [] => True
  | .group :: _ => True
  | _ => False

theorem settled_of_termBegins {pieces : List Piece} (begins : TermBegins pieces) (operand : Unary) :
    settled operand pieces = .operator pieces (.unary operand) := by
  match pieces with
  | [] => rfl
  | .sum .. :: _ => rfl
  | .product .. :: _ => exact begins.elim
  | .sign _ :: _ => exact begins.elim
  | .group :: _ => rfl

theorem termBegins_of_exprBegins {pieces : List Piece} (begins : ExprBegins pieces) :
    TermBegins pieces := by
  match pieces with
  | [] => trivial
  | .sum .. :: _ => trivial
  | .product .. :: _ => exact begins
  | .sign _ :: _ => exact begins
  | .group :: _ => trivial

theorem gathered_of_exprBegins {pieces : List Piece} (begins : ExprBegins pieces) (term : Term) :
    gathered term pieces = (.term term, pieces) := by
  match pieces with
  | [] => rfl
  | .sum .. :: _ => exact begins.elim
  | .product .. :: _ => rfl
  | .sign _ :: _ => rfl
  | .group :: _ => rfl

namespace Reading

-- By recursion on the tree: each kind of node is read over whatever stands open, as far as a node of
-- its kind may begin there.
mutual
theorem nextAll_expr (expr : Expr) (pieces : List Piece) (begins : ExprBegins pieces) :
    ∃ inner term, (operand pieces).nextAll expr.tokens = some (.operator inner term) ∧
      gathered term inner = (expr, pieces) := by
  match expr with
  | .term only =>
    exact ⟨pieces, only, nextAll_term only pieces (termBegins_of_exprBegins begins),
      gathered_of_exprBegins begins only⟩
  | .sum left op right =>
    obtain ⟨inner, term, read, gathering⟩ := nextAll_expr left pieces begins
    have last : (operand (.sum left op :: pieces)).nextAll right.tokens =
        some (.operator (.sum left op :: pieces) right) := nextAll_term right _ trivial
    have between := next_of_follows (.sum inner term op)
    rw [gathering] at between
    refine ⟨.sum left op :: pieces, right, ?_, rfl⟩
    simp [Expr.tokens, nextAll_append, read, nextAll_cons, between, last]

theorem nextAll_term (term : Term) (pieces : List Piece) (begins : TermBegins pieces) :
    (operand pieces).nextAll term.tokens = some (.operator pieces term) := by
  match term with
  | .unary only => exact (nextAll_unary only pieces).trans (by rw [settled_of_termBegins begins])
  | .product left op right =>
    have first := nextAll_term left pieces begins
    have between := next_of_follows (.product pieces left op)
    have last := nextAll_unary right (.product left op :: pieces)
    simp [Term.tokens, nextAll_append, first, nextAll_cons, between, last, settled]

theorem nextAll_unary (unary : Unary) (pieces : List Piece) :
    (operand pieces).nextAll unary.tokens = some (settled unary pieces) := by
  match unary with
  | .sign negative inner =>
    have begun := next_of_follows (.sign pieces negative)
    have rest := nextAll_unary inner (.sign negative :: pieces)
    simp [Unary.tokens, nextAll_cons, begun, rest, settled]
  | .primary inner => exact nextAll_primary inner pieces

theorem nextAll_primary (primary : Primary) (pieces : List Piece) :
    (operand pieces).nextAll primary.tokens = some (settled (.primary primary) pieces) := by
  match primary with
  | .number value => rfl
  | .group inner =>
    have begun := next_of_follows (.opening pieces)
    obtain ⟨inside, term, read, gathering⟩ := nextAll_expr inner (.group :: pieces) trivial
    have ended := next_of_follows (.closing inside term gathering)
    simp [Primary.tokens, nextAll_cons, nextAll_append, begun, read, ended]
end

end Reading

namespace Expr

/-- The tokens of a tree are read into that tree, and no others are. -/
theorem ofTokens?_eq_some_iff (tokens : List Token) (expr : Expr) :
    ofTokens? tokens = some expr ↔ expr.tokens = tokens := by
  constructor
  · intro read
    rw [ofTokens?, Option.bind_eq_some_iff] at read
    obtain ⟨reading, taken, complete⟩ := read
    have written := Reading.tokens_nextAll taken
    rw [← Reading.tokens_of_result? complete, written]
    rfl
  · rintro rfl
    obtain ⟨inner, term, read, gathering⟩ := Reading.nextAll_expr expr [] trivial
    simp [ofTokens?, read, Reading.result?, gathering]

/-- No tokens have two derivations. -/
theorem eq_of_tokens {first second : Expr} (same : first.tokens = second.tokens) : first = second := by
  have read := (ofTokens?_eq_some_iff first.tokens first).mpr rfl
  have again := (ofTokens?_eq_some_iff first.tokens second).mpr same.symm
  exact Option.some.inj (read.symm.trans again)

end Expr
end Calc
end PathShell
