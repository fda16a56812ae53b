import PathShell.Proofs.Calc.Reader

/-!
# What evaluates

The evaluation follows the reading of a tree token by token: it holds the values of what stands open,
and fails besides where a sign or a group nests too deep or a divisor is a zero. So what evaluates is
what the grammar derives within the limits, and the result is the value of the tree.
-/

namespace PathShell
namespace Calc

/-! ## Values of what is read -/

def Piece.frame : Piece → Frame
  | .sum left op => .sum left.value op
  | .product left op => .product left.value op
  | .sign negative => .sign negative
  | .group => .group

/-- The stack of the values of what stands open. -/
def frames (pieces : List Piece) : Stack := pieces.map Piece.frame

def Reading.state : Reading → State
  | .operand pieces => .operand (frames pieces)
  | .operator pieces term => .operator (frames pieces) term.value

/-- How many signs and groups stand open. -/
def openDepth (pieces : List Piece) : Nat := (frames pieces).depth

theorem depth_cons (frame : Frame) (stack : Stack) :
    Stack.depth (frame :: stack) = stack.depth + if frame.nests then 1 else 0 :=
  List.countP_cons

@[simp] theorem openDepth_sum (left : Expr) (op : SumOp) (outer : List Piece) :
    openDepth (.sum left op :: outer) = openDepth outer := depth_cons ..

@[simp] theorem openDepth_product (left : Term) (op : ProductOp) (outer : List Piece) :
    openDepth (.product left op :: outer) = openDepth outer := depth_cons ..

@[simp] theorem openDepth_sign (negative : Bool) (outer : List Piece) :
    openDepth (.sign negative :: outer) = openDepth outer + 1 := depth_cons ..

@[simp] theorem openDepth_group (outer : List Piece) :
    openDepth (.group :: outer) = openDepth outer + 1 := depth_cons ..

/-- What the machine adds or subtracts is the value of the sum. -/
theorem SumOp.apply_value (op : SumOp) (left : Expr) (right : Term) :
    op.apply left.value right.value = (Expr.sum left op right).value := by
  cases op with
  | add => rfl
  | subtract => rfl

theorem total_frames (term : Term) (pieces : List Piece) :
    total term.value (frames pieces) =
      ((gathered term pieces).1.value, frames (gathered term pieces).2) := by
  match pieces with
  | [] => rfl
  | .sum left op :: outer => exact congrArg (·, frames outer) (op.apply_value left term)
  | .product .. :: _ => rfl
  | .sign _ :: _ => rfl
  | .group :: _ => rfl

/-! ## Limits -/

/-- With `outer` signs and groups around it, the tree nests no deeper than it may, and divides by no
    zero. -/
def Expr.Fits (outer : Nat) (expr : Expr) : Prop := outer + expr.depth ≤ maxDepth ∧ expr.NoZeroDivisor

@[inherit_doc Expr.Fits]
def Term.Fits (outer : Nat) (term : Term) : Prop := outer + term.depth ≤ maxDepth ∧ term.NoZeroDivisor

@[inherit_doc Expr.Fits]
def Unary.Fits (outer : Nat) (unary : Unary) : Prop :=
  outer + unary.depth ≤ maxDepth ∧ unary.NoZeroDivisor

theorem fits_sum_iff (outer : Nat) (left : Expr) (op : SumOp) (right : Term) :
    (Expr.sum left op right).Fits outer ↔ left.Fits outer ∧ right.Fits outer := by
  constructor
  · rintro ⟨deep, first, last⟩
    simp only [Expr.depth] at deep
    exact ⟨⟨by omega, first⟩, by omega, last⟩
  · rintro ⟨⟨left_deep, first⟩, right_deep, last⟩
    refine ⟨?_, first, last⟩
    simp only [Expr.depth]
    omega

theorem fits_product_iff (outer : Nat) (left : Term) (op : ProductOp) (right : Unary) :
    (Term.product left op right).Fits outer ↔
      left.Fits outer ∧ right.Fits outer ∧ op.Allows right.value := by
  constructor
  · rintro ⟨deep, first, last, allowed⟩
    simp only [Term.depth] at deep
    exact ⟨⟨by omega, first⟩, ⟨by omega, last⟩, allowed⟩
  · rintro ⟨⟨left_deep, first⟩, ⟨right_deep, last⟩, allowed⟩
    refine ⟨?_, first, last, allowed⟩
    simp only [Term.depth]
    omega

theorem fits_sign_iff (outer : Nat) (negative : Bool) (operand : Unary) :
    (Unary.sign negative operand).Fits outer ↔ operand.Fits (outer + 1) := by
  simp only [Unary.Fits, Unary.depth, Unary.NoZeroDivisor, Nat.add_assoc, Nat.add_comm 1]

theorem fits_group_iff (outer : Nat) (inner : Expr) :
    (Unary.primary (.group inner)).Fits outer ↔ inner.Fits (outer + 1) := by
  simp only [Unary.Fits, Expr.Fits, Unary.depth, Primary.depth, Unary.NoZeroDivisor,
    Primary.NoZeroDivisor, Nat.add_assoc, Nat.add_comm 1]

/-- What stands open keeps to the limits. -/
def OpenFits : List Piece → Prop
  | [] => True
  | .sum left _ :: outer => OpenFits outer ∧ left.Fits (openDepth outer)
  | .product left _ :: outer => OpenFits outer ∧ left.Fits (openDepth outer)
  | .sign _ :: outer => OpenFits outer ∧ openDepth outer + 1 ≤ maxDepth
  | .group :: outer => OpenFits outer ∧ openDepth outer + 1 ≤ maxDepth

/-- All that has been read keeps to the limits. -/
def Reading.Fits : Reading → Prop
  | .operand pieces => OpenFits pieces
  | .operator pieces term => OpenFits pieces ∧ term.Fits (openDepth pieces)

theorem openDepth_le_of_openFits {pieces : List Piece} (fits : OpenFits pieces) :
    openDepth pieces ≤ maxDepth := by
  match pieces with
  | [] => exact Nat.zero_le _
  | .sum left op :: outer => simpa using openDepth_le_of_openFits fits.1
  | .product left op :: outer => simpa using openDepth_le_of_openFits fits.1
  | .sign negative :: outer => simpa using fits.2
  | .group :: outer => simpa using fits.2

theorem fits_gathered_iff (term : Term) (pieces : List Piece) :
    OpenFits (gathered term pieces).2 ∧
        (gathered term pieces).1.Fits (openDepth (gathered term pieces).2) ↔
      (Reading.operator pieces term).Fits := by
  match pieces with
  | [] => rfl
  | .sum left op :: outer =>
    simp only [gathered, Reading.Fits, OpenFits, fits_sum_iff, openDepth_sum, and_assoc]
  | .product .. :: _ => rfl
  | .sign _ :: _ => rfl
  | .group :: _ => rfl

/-- What an operand completes keeps to the limits only if the operand does. -/
theorem fits_of_settled {operand : Unary} {pieces : List Piece}
    (fits : (settled operand pieces).Fits) :
    OpenFits pieces ∧ operand.Fits (openDepth pieces) := by
  induction pieces generalizing operand with
  | nil => exact fits
  | cons piece outer ih =>
    cases piece with
    | sum left op => exact fits
    | product left op =>
      obtain ⟨around, whole⟩ := fits
      obtain ⟨first, last, -⟩ := (fits_product_iff ..).mp whole
      exact ⟨⟨around, first⟩, last⟩
    | sign negative =>
      obtain ⟨around, signed⟩ := ih fits
      have inner := (fits_sign_iff ..).mp signed
      have nests : openDepth outer + 1 ≤ maxDepth := Nat.le_trans (Nat.le_add_right ..) inner.1
      exact ⟨⟨around, nests⟩, by rwa [openDepth_sign]⟩
    | group => exact fits

/-! ## One token -/

/-- What the evaluation comes to where a reading goes on: the values, or a failure just if the reading
    leaves the limits. -/
inductive Reading.Evaluates (reading : Reading) : Except Failure State → Prop where
  | within (fits : reading.Fits) : reading.Evaluates (.ok reading.state)
  | zeroDivisor (unfit : ¬ reading.Fits) : reading.Evaluates (.error .divisionByZero)
  | tooDeep (unfit : ¬ reading.Fits) : reading.Evaluates (.error .tooDeep)

theorem ProductOp.apply_of_allows {op : ProductOp} {right : Float} (allowed : op.Allows right)
    (left : Float) : op.apply left right = .ok (op.result left right) := by
  cases op with
  | multiply => rfl
  | divide => simp [ProductOp.apply, ProductOp.result, allowed rfl]

theorem ProductOp.apply_of_not_allows {op : ProductOp} {right : Float} (refused : ¬ op.Allows right)
    (left : Float) : op.apply left right = .error .divisionByZero := by
  cases op with
  | multiply => exact absurd nofun refused
  | divide =>
    have zero : (right == 0) = true := by simpa [ProductOp.Allows] using refused
    simp [ProductOp.apply, zero]

theorem evaluates_settled {operand : Unary} {pieces : List Piece} (around : OpenFits pieces)
    (fits : operand.Fits (openDepth pieces)) :
    (settled operand pieces).Evaluates (settle operand.value (frames pieces)) := by
  induction pieces generalizing operand with
  | nil => exact .within ⟨around, fits⟩
  | cons piece outer ih =>
    cases piece with
    | sum left op => exact .within ⟨around, fits⟩
    | product left op =>
      change Reading.Evaluates _ ((op.apply left.value operand.value).map (.operator (frames outer)))
      by_cases allowed : op.Allows operand.value
      · rw [ProductOp.apply_of_allows allowed]
        exact .within ⟨around.1, (fits_product_iff ..).mpr ⟨around.2, fits, allowed⟩⟩
      · rw [ProductOp.apply_of_not_allows allowed]
        refine .zeroDivisor fun within => allowed ?_
        exact ((fits_product_iff ..).mp within.2).2.2
    | sign negative =>
      rw [openDepth_sign] at fits
      exact ih around.1 ((fits_sign_iff ..).mpr fits)
    | group => exact .within ⟨around, fits⟩

/-- A sign or a group begins, where it does not nest too deep. -/
theorem evaluates_enter {piece : Piece} {pieces : List Piece} (nests : piece.frame.nests)
    (around : OpenFits pieces) :
    (Reading.operand (piece :: pieces)).Evaluates (enter piece.frame (frames pieces)) := by
  have deeper : Stack.depth (piece.frame :: frames pieces) = openDepth pieces + 1 := by
    rw [depth_cons, if_pos nests]
    rfl
  have fits_iff : OpenFits (piece :: pieces) ↔ openDepth pieces + 1 ≤ maxDepth := by
    cases piece with
    | sum => contradiction
    | product => contradiction
    | sign => exact and_iff_right around
    | group => exact and_iff_right around
  rw [enter, deeper]
  split
  · next tooMany => exact .tooDeep fun fits => Nat.not_le.mpr tooMany (fits_iff.mp fits)
  · next under => exact .within (fits_iff.mpr (Nat.not_lt.mp under))

theorem step_productOp (stack : Stack) (value : Float) (op : ProductOp) :
    step (.operator stack value) op.token = .ok (.operand (.product value op :: stack)) := by
  cases op <;> rfl

theorem step_sumOp (stack : Stack) (value : Float) (op : SumOp) :
    step (.operator stack value) op.token =
      .ok (.operand (.sum (total value stack).1 op :: (total value stack).2)) := by
  cases op <;> rfl

theorem step_sign (stack : Stack) (negative : Bool) :
    step (.operand stack) (signToken negative) = enter (.sign negative) stack := by
  cases negative <;> rfl

/-- The evaluation of a token goes as its reading does. -/
theorem evaluates_step {reading after : Reading} {token : Token} (fits : reading.Fits)
    (follows : reading.Follows token after) : after.Evaluates (step reading.state token) := by
  cases follows with
  | number pieces value =>
    have shallow : openDepth pieces + 0 ≤ maxDepth := openDepth_le_of_openFits fits
    exact evaluates_settled fits ⟨shallow, trivial⟩
  | sign pieces negative =>
    rw [Reading.state, step_sign]
    exact evaluates_enter rfl fits
  | opening pieces => exact evaluates_enter rfl fits
  | product pieces term op =>
    rw [Reading.state, step_productOp]
    exact .within fits
  | sum pieces term op =>
    rw [Reading.state, step_sumOp, total_frames]
    exact .within ((fits_gathered_iff term pieces).mpr fits)
  | closing pieces term gathering =>
    obtain ⟨around, whole⟩ := (fits_gathered_iff term pieces).mpr fits
    rw [gathering] at around whole
    rw [openDepth_group] at whole
    simp only [Reading.state, step, total_frames, gathering]
    exact evaluates_settled around.1 ((fits_group_iff ..).mpr whole)

theorem fits_of_follows {reading after : Reading} {token : Token}
    (follows : reading.Follows token after) (fits : after.Fits) : reading.Fits := by
  cases follows with
  | number pieces value => exact (fits_of_settled fits).1
  | sign pieces negative => exact fits.1
  | opening pieces => exact fits.1
  | product pieces term op => exact fits
  | sum pieces term op => exact (fits_gathered_iff term pieces).mp fits
  | closing pieces term gathering =>
    obtain ⟨around, whole⟩ := fits_of_settled fits
    have inside := (fits_group_iff ..).mp whole
    have nests := Nat.le_trans (Nat.le_add_right ..) inside.1
    refine (fits_gathered_iff term pieces).mp ?_
    rw [gathering]
    exact ⟨⟨around, nests⟩, by rwa [openDepth_group]⟩

/-- A token that cannot follow is refused by name. -/
theorem step_of_next_eq_none {reading : Reading} {token : Token}
    (refused : reading.next token = none) : step reading.state token = .error (.unexpectedToken token) := by
  cases reading with
  | operand pieces =>
    cases token with
    | number value => cases refused
    | plus => cases refused
    | minus => cases refused
    | opening => cases refused
    | times => rfl
    | divide => rfl
    | closing => rfl
  | operator pieces term =>
    cases token with
    | number value => rfl
    | opening => rfl
    | times => cases refused
    | divide => cases refused
    | plus => cases refused
    | minus => cases refused
    | closing =>
      simp only [Reading.state, step, total_frames]
      simp only [Reading.next] at refused
      generalize gathered term pieces = gathering at refused
      obtain ⟨inner, around⟩ := gathering
      cases around with
      | nil => rfl
      | cons piece outer =>
        cases piece with
        | sum left op => rfl
        | product left op => rfl
        | sign negative => rfl
        | group => cases refused

theorem step_eq_ok_iff {reading : Reading} (fits : reading.Fits) (token : Token) (state : State) :
    step reading.state token = .ok state ↔
      ∃ after, reading.next token = some after ∧ after.Fits ∧ after.state = state := by
  cases read : reading.next token with
  | none => simp [step_of_next_eq_none read]
  | some after =>
    have outcome := evaluates_step fits (Reading.follows_of_next read)
    generalize step reading.state token = stepped at outcome
    cases outcome with
    | within fits => simp [fits]
    | zeroDivisor unfit => simp [unfit]
    | tooDeep unfit => simp [unfit]

/-! ## All tokens -/

theorem fits_of_nextAll {reading after : Reading} {tokens : List Token}
    (read : reading.nextAll tokens = some after) (fits : after.Fits) : reading.Fits := by
  induction tokens generalizing reading with
  | nil => cases read; exact fits
  | cons token rest ih =>
    rw [Reading.nextAll_cons, Option.bind_eq_some_iff] at read
    obtain ⟨between, first, others⟩ := read
    exact fits_of_follows (Reading.follows_of_next first) (ih others)

theorem run_eq_ok_iff {reading : Reading} (fits : reading.Fits) (tokens : List Token)
    (state : State) :
    run reading.state tokens = .ok state ↔
      ∃ after, reading.nextAll tokens = some after ∧ after.Fits ∧ after.state = state := by
  induction tokens generalizing reading with
  | nil => simp [run, fits]
  | cons token rest ih =>
    constructor
    · intro ran
      rw [run] at ran
      split at ran
      · next stepped first =>
        obtain ⟨between, read, still, rfl⟩ := (step_eq_ok_iff fits token stepped).mp first
        obtain ⟨after, others, ends⟩ := (ih still).mp ran
        exact ⟨after, by rw [Reading.nextAll_cons, read]; exact others, ends⟩
      · cases ran
    · rintro ⟨after, read, ends⟩
      rw [Reading.nextAll_cons, Option.bind_eq_some_iff] at read
      obtain ⟨between, first, others⟩ := read
      have still := fits_of_nextAll others ends.1
      have stepped := (step_eq_ok_iff fits token between.state).mpr ⟨between, first, still, rfl⟩
      rw [run, stepped]
      exact (ih still).mpr ⟨after, others, ends⟩

/-- At the end a tree evaluates, if it is complete and its value is finite. -/
theorem finish_eq_ok_iff (reading : Reading) (result : Float) :
    finish reading.state = .ok result ↔
      ∃ expr, reading.result? = some expr ∧ expr.value = result ∧ result.isFinite := by
  cases reading with
  | operand pieces => simp [finish, Reading.state, Reading.result?]
  | operator pieces term =>
    simp only [Reading.state, finish, total_frames, Reading.result?]
    obtain ⟨expr, around⟩ := gathered term pieces
    cases around with
    | cons piece outer => simp [frames]
    | nil =>
      by_cases finite : expr.value.isFinite
      · simp only [frames, List.map_nil, finite, if_true, Except.ok.injEq, Option.some.injEq,
          exists_eq_left']
        constructor
        · rintro rfl
          exact ⟨rfl, finite⟩
        · exact And.left
      · simp only [frames, List.map_nil, finite, Option.some.injEq, exists_eq_left']
        constructor
        · intro failed
          cases failed
        · rintro ⟨rfl, also⟩
          exact absurd also finite

theorem fits_of_result? {reading : Reading} {expr : Expr} (complete : reading.result? = some expr) :
    reading.Fits ↔ expr.Fits 0 := by
  cases reading with
  | operand pieces => cases complete
  | operator pieces term =>
    rw [Reading.result?] at complete
    split at complete
    · next same gathering =>
      cases complete
      rw [← fits_gathered_iff, gathering]
      exact and_iff_right trivial
    · cases complete

theorem value_eq_ok_iff (tokens : List Token) (result : Float) :
    value tokens = .ok result ↔
      ∃ expr : Expr, expr.tokens = tokens ∧ expr.Fits 0 ∧ expr.value = result ∧ result.isFinite := by
  have start : (Reading.operand []).Fits := trivial
  constructor
  · intro evaluated
    rw [value] at evaluated
    split at evaluated
    · next state ran =>
      obtain ⟨after, read, fits, rfl⟩ := (run_eq_ok_iff start tokens state).mp ran
      obtain ⟨expr, complete, rest⟩ := (finish_eq_ok_iff after result).mp evaluated
      have tree : Expr.ofTokens? tokens = some expr := by rw [Expr.ofTokens?, read]; exact complete
      exact ⟨expr, (Expr.ofTokens?_eq_some_iff tokens expr).mp tree,
        (fits_of_result? complete).mp fits, rest⟩
    · cases evaluated
  · rintro ⟨expr, written, fits, rest⟩
    have tree := (Expr.ofTokens?_eq_some_iff tokens expr).mpr written
    rw [Expr.ofTokens?, Option.bind_eq_some_iff] at tree
    obtain ⟨after, read, complete⟩ := tree
    have ran := (run_eq_ok_iff start tokens after.state).mpr
      ⟨after, read, (fits_of_result? complete).mpr fits, rfl⟩
    change run (.operand []) tokens = _ at ran
    rw [value, ran]
    exact (finish_eq_ok_iff after result).mpr ⟨expr, complete, rest⟩

/-- An expression evaluates just if its tokens derive from a tree whose signs and groups nest no
    deeper than they may, in which nothing is divided by a zero, and whose value is finite; that value
    is the result. There is no second such tree, and how many operands stand side by side in one does
    not count: it nests no deeper than the deepest of them. -/
theorem evaluates_grammar (expression : String) (result : Float) :
    (evaluate expression = .ok result ↔
      ∃ expr : Expr, tokens expression = .ok expr.tokens ∧ expr.depth ≤ 200 ∧
        expr.NoZeroDivisor ∧ expr.value = result ∧ result.isFinite) ∧
      (∀ first second : Expr, first.tokens = second.tokens → first = second) ∧
      ∀ expr : Expr, expr.depth ≤ 200 ↔ ∀ operand ∈ expr.operands, operand.depth ≤ 200 := by
  have limit : maxDepth = 200 := rfl
  refine ⟨?_, fun _ _ => Expr.eq_of_tokens, fun expr => expr.depth_le_iff 200⟩
  constructor
  · intro evaluated
    rw [evaluate] at evaluated
    split at evaluated
    · next list lexed =>
      obtain ⟨expr, rfl, ⟨shallow, divides⟩, rest⟩ := (value_eq_ok_iff list result).mp evaluated
      exact ⟨expr, lexed, by omega, divides, rest⟩
    · cases evaluated
  · rintro ⟨expr, lexed, shallow, divides, rest⟩
    rw [evaluate, lexed]
    exact (value_eq_ok_iff expr.tokens result).mpr ⟨expr, rfl, ⟨by omega, divides⟩, rest⟩

end Calc
end PathShell
