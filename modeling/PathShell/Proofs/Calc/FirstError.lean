import PathShell.Proofs.Calc.Evaluation

/-!
# The first error

A list of tokens is viable while some continuation makes a sentence of it, however deep that nests.
What can be read is viable, since whatever stands open can be closed; so a token is refused just where
nothing viable is left, and a limit is passed only within viable tokens.
-/

namespace PathShell
namespace Calc

/-! ## Viable tokens -/

/-- A tree derives the tokens, however deep it nests. -/
def IsSentence (tokens : List Token) : Prop := ∃ expr : Expr, expr.tokens = tokens

/-- Some continuation makes a sentence of the tokens. -/
def Viable (tokens : List Token) : Prop := ∃ rest, IsSentence (tokens ++ rest)

/-- Each of the open pieces stands where one of its kind may begin. -/
def Placed : List Piece → Prop
  | [] => True
  | .sum _ _ :: outer => ExprBegins outer ∧ Placed outer
  | .product _ _ :: outer => TermBegins outer ∧ Placed outer
  | .sign _ :: outer => Placed outer
  | .group :: outer => Placed outer

/-- All that stands open is placed, and a complete term has no sign or product before it. -/
def Reading.Placed : Reading → Prop
  | .operand pieces => Calc.Placed pieces
  | .operator pieces _ => TermBegins pieces ∧ Calc.Placed pieces

/-- An operand leaves an operator to follow, with no more pieces open than before. -/
theorem settled_shape (operand : Unary) {pieces : List Piece} (placed : Placed pieces) :
    ∃ inner term, settled operand pieces = .operator inner term ∧
      inner.length ≤ pieces.length ∧ TermBegins inner ∧ Placed inner := by
  induction pieces generalizing operand with
  | nil => exact ⟨[], .unary operand, rfl, Nat.le_refl _, trivial, trivial⟩
  | cons piece outer ih =>
    cases piece with
    | sum left op => exact ⟨_, _, rfl, Nat.le_refl _, trivial, placed⟩
    | product left op => exact ⟨outer, _, rfl, Nat.le_succ _, placed.1, placed.2⟩
    | sign negative =>
      obtain ⟨inner, term, shape, shorter, begins⟩ := ih (.sign negative operand) placed
      exact ⟨inner, term, shape, Nat.le_succ_of_le shorter, begins⟩
    | group => exact ⟨_, _, rfl, Nat.le_refl _, trivial, placed⟩

/-- Around a whole sum there is nothing, or a group. -/
theorem gathered_shape (term : Term) {pieces : List Piece} (begins : TermBegins pieces)
    (placed : Placed pieces) :
    ExprBegins (gathered term pieces).2 ∧ Placed (gathered term pieces).2 ∧
      (gathered term pieces).2.length ≤ pieces.length := by
  match pieces with
  | [] => exact ⟨trivial, trivial, Nat.le_refl _⟩
  | .sum left op :: outer => exact ⟨placed.1, placed.2, Nat.le_succ _⟩
  | .product .. :: _ => exact begins.elim
  | .sign _ :: _ => exact begins.elim
  | .group :: _ => exact ⟨trivial, placed, Nat.le_refl _⟩

namespace Reading

theorem placed_settled (operand : Unary) {pieces : List Piece} (placed : Calc.Placed pieces) :
    (settled operand pieces).Placed := by
  obtain ⟨inner, term, shape, -, within⟩ := settled_shape operand placed
  rw [shape]
  exact within

theorem placed_of_follows {reading after : Reading} {token : Token}
    (follows : reading.Follows token after) (placed : reading.Placed) : after.Placed := by
  cases follows with
  | number pieces value => exact placed_settled _ placed
  | sign pieces negative => exact placed
  | opening pieces => exact placed
  | product pieces term op => exact placed
  | sum pieces term op =>
    obtain ⟨begins, around, -⟩ := gathered_shape term placed.1 placed.2
    exact ⟨begins, around⟩
  | closing pieces term gathering =>
    obtain ⟨-, around, -⟩ := gathered_shape term placed.1 placed.2
    rw [gathering] at around
    exact placed_settled _ around

theorem placed_nextAll {reading after : Reading} {tokens : List Token}
    (read : reading.nextAll tokens = some after) (placed : reading.Placed) : after.Placed := by
  induction tokens generalizing reading with
  | nil => cases read; exact placed
  | cons token rest ih =>
    rw [nextAll_cons, Option.bind_eq_some_iff] at read
    obtain ⟨between, first, others⟩ := read
    exact ih others (placed_of_follows (follows_of_next first) placed)

/-- The tree that is read with some tokens more. -/
def Completes (reading : Reading) (rest : List Token) (expr : Expr) : Prop :=
  (reading.nextAll rest).bind result? = some expr

theorem Completes.cons {reading after : Reading} {token : Token} {rest : List Token} {expr : Expr}
    (read : reading.next token = some after) (completes : after.Completes rest expr) :
    reading.Completes (token :: rest) expr := by
  rw [Completes, nextAll_cons, read]
  exact completes

/-- Behind a term the groups that stand open can be closed one after the other. -/
theorem exists_completes_of_operator (pieces : List Piece) (term : Term)
    (placed : (operator pieces term).Placed) : ∃ rest expr, (operator pieces term).Completes rest expr := by
  obtain ⟨begins, around, shorter⟩ := gathered_shape term placed.1 placed.2
  match gathering : gathered term pieces with
  | (inner, []) => exact ⟨[], inner, by simp [Completes, result?, gathering]⟩
  | (inner, .group :: outer) =>
    rw [gathering] at around shorter
    have outside : Calc.Placed outer := around
    obtain ⟨left, whole, shape, fewer, within⟩ := settled_shape (.primary (.group inner)) outside
    have closed := next_of_follows (.closing pieces term gathering)
    rw [shape] at closed
    have smaller : left.length < pieces.length := Nat.lt_of_le_of_lt fewer shorter
    obtain ⟨rest, expr, completes⟩ := exists_completes_of_operator left whole within
    exact ⟨.closing :: rest, expr, completes.cons closed⟩
  | (_, .sum .. :: _) => rw [gathering] at begins; exact begins.elim
  | (_, .product .. :: _) => rw [gathering] at begins; exact begins.elim
  | (_, .sign _ :: _) => rw [gathering] at begins; exact begins.elim
termination_by pieces.length

theorem exists_completes {reading : Reading} (placed : reading.Placed) :
    ∃ rest expr, reading.Completes rest expr := by
  cases reading with
  | operator pieces term => exact exists_completes_of_operator pieces term placed
  | operand pieces =>
    obtain ⟨inner, term, shape, -, within⟩ := settled_shape (.primary (.number 0)) placed
    have number := next_of_follows (.number pieces 0)
    rw [shape] at number
    obtain ⟨rest, expr, completes⟩ := exists_completes_of_operator inner term within
    exact ⟨.number 0 :: rest, expr, completes.cons number⟩

end Reading

theorem isSentence_iff (tokens : List Token) :
    IsSentence tokens ↔
      ∃ reading expr, Reading.nextAll (.operand []) tokens = some reading ∧ reading.result? = some expr := by
  simp only [IsSentence, ← Expr.ofTokens?_eq_some_iff, Expr.ofTokens?, Option.bind_eq_some_iff]
  exact exists_comm

/-- Viable tokens are those that can be read. -/
theorem viable_iff (tokens : List Token) :
    Viable tokens ↔ ∃ reading, Reading.nextAll (.operand []) tokens = some reading := by
  constructor
  · rintro ⟨rest, sentence⟩
    obtain ⟨_, _, read, -⟩ := (isSentence_iff _).mp sentence
    rw [Reading.nextAll_append, Option.bind_eq_some_iff] at read
    obtain ⟨reading, first, -⟩ := read
    exact ⟨reading, first⟩
  · rintro ⟨reading, read⟩
    have placed : reading.Placed := Reading.placed_nextAll read trivial
    obtain ⟨rest, expr, completes⟩ := Reading.exists_completes placed
    rw [Reading.Completes, Option.bind_eq_some_iff] at completes
    obtain ⟨last, more, complete⟩ := completes
    refine ⟨rest, (isSentence_iff _).mpr ⟨last, expr, ?_, complete⟩⟩
    rw [Reading.nextAll_append, read]
    exact more

theorem Viable.of_append {before after : List Token} (viable : Viable (before ++ after)) :
    Viable before := by
  obtain ⟨rest, sentence⟩ := viable
  exact ⟨after ++ rest, by rwa [← List.append_assoc]⟩

/-! ## Where an evaluation fails -/

/-- A step fails on a token that cannot follow, or on one with which the limits are left. -/
theorem step_eq_error {reading : Reading} (fits : reading.Fits) {token : Token} {failure : Failure}
    (failed : step reading.state token = .error failure) :
    (reading.next token = none ∧ failure = .unexpectedToken token) ∨
      ∃ after, reading.next token = some after ∧
        (failure = .divisionByZero ∨ failure = .tooDeep) := by
  cases read : reading.next token with
  | none =>
    rw [step_of_next_eq_none read] at failed
    cases failed
    exact .inl ⟨rfl, rfl⟩
  | some after =>
    have outcome := evaluates_step fits (Reading.follows_of_next read)
    rw [failed] at outcome
    cases outcome with
    | zeroDivisor unfit => exact .inr ⟨after, rfl, .inl rfl⟩
    | tooDeep unfit => exact .inr ⟨after, rfl, .inr rfl⟩

/-- At the end an operand or a closing parenthesis is missing, or the value is not finite. -/
theorem finish_eq_error {reading : Reading} {failure : Failure}
    (failed : finish reading.state = .error failure) :
    (reading.result? = none ∧ failure = .unexpectedEnd) ∨
      ∃ expr, reading.result? = some expr ∧ failure = .notFinite ∧ expr.value.isFinite = false := by
  cases reading with
  | operand pieces => cases failed; exact .inl ⟨rfl, rfl⟩
  | operator pieces term =>
    simp only [Reading.state, finish, total_frames] at failed
    cases gathering : gathered term pieces with
    | mk expr around =>
      rw [gathering] at failed
      cases around with
      | nil =>
        have complete : (Reading.operator pieces term).result? = some expr := by
          rw [Reading.result?, gathering]
        by_cases finite : expr.value.isFinite
        · simp [frames, finite] at failed
        · have raised : Failure.notFinite = failure := by simpa [frames, finite] using failed
          exact .inr ⟨expr, complete, raised.symm, by simpa using finite⟩
      | cons piece outer =>
        cases failed
        exact .inl ⟨by rw [Reading.result?, gathering], rfl⟩

theorem run_append (state : State) (first second : List Token) :
    run state (first ++ second) = (run state first).bind (run · second) := by
  induction first generalizing state with
  | nil => rfl
  | cons token rest ih =>
    rw [List.cons_append, run, run]
    cases step state token with
    | ok next => exact ih next
    | error failure => rfl

/-- What is read within the limits runs. -/
theorem run_of_nextAll {tokens : List Token} {reading : Reading}
    (read : Reading.nextAll (.operand []) tokens = some reading) (fits : reading.Fits) :
    run (.operand []) tokens = .ok reading.state := by
  have start : (Reading.operand []).Fits := trivial
  exact (run_eq_ok_iff start tokens reading.state).mpr ⟨reading, read, fits, rfl⟩

/-- A run that fails reads tokens within the limits and fails with the next one. -/
theorem run_eq_error {reading : Reading} (fits : reading.Fits) {tokens : List Token}
    {failure : Failure} (failed : run reading.state tokens = .error failure) :
    ∃ before token rest between, tokens = before ++ token :: rest ∧
      reading.nextAll before = some between ∧ between.Fits ∧
      step between.state token = .error failure := by
  induction tokens generalizing reading with
  | nil => cases failed
  | cons token rest ih =>
    rw [run] at failed
    split at failed
    · next stepped first =>
      obtain ⟨after, read, still, rfl⟩ := (step_eq_ok_iff fits token stepped).mp first
      obtain ⟨before, refused, others, between, rfl, followed, within, fails⟩ := ih still failed
      refine ⟨token :: before, refused, others, between, rfl, ?_, within, fails⟩
      rw [Reading.nextAll_cons, read]
      exact followed
    · next raised first =>
      cases failed
      exact ⟨[], token, rest, reading, rfl, rfl, fits, first⟩

/-- The evaluation fails with the last of the tokens, and not before it. -/
def FailsAt (consumed : List Token) (failure : Failure) : Prop :=
  run (.operand []) consumed = .error failure ∧
    ∀ earlier, earlier <+: consumed → earlier ≠ consumed → ∃ state, run (.operand []) earlier = .ok state

theorem failsAt_concat {before : List Token} {token : Token} {state : State} {failure : Failure}
    (ran : run (.operand []) before = .ok state) (failed : step state token = .error failure) :
    FailsAt (before ++ [token]) failure := by
  constructor
  · rw [run_append, ran]
    simp [Except.bind, run, failed]
  · intro earlier cut proper
    obtain rfl | ⟨rest, rfl⟩ := List.prefix_concat_iff.mp cut
    · exact absurd rfl proper
    · rw [run_append] at ran
      cases done : run (.operand []) earlier with
      | ok between => exact ⟨between, rfl⟩
      | error raised => rw [done] at ran; cases ran

/-- Nothing that follows changes the failure. -/
theorem FailsAt.value_append {consumed : List Token} {failure : Failure}
    (fails : FailsAt consumed failure) (more : List Token) : value (consumed ++ more) = .error failure := by
  rw [value, run_append, fails.1]
  rfl

/-- A failing evaluation fails with one of the tokens, after others within the limits, or at their
    end. -/
theorem value_eq_error {tokens : List Token} {failure : Failure}
    (failed : value tokens = .error failure) :
    (∃ before token rest reading, tokens = before ++ token :: rest ∧
        Reading.nextAll (.operand []) before = some reading ∧ reading.Fits ∧
        step reading.state token = .error failure) ∨
      ∃ reading, Reading.nextAll (.operand []) tokens = some reading ∧ reading.Fits ∧
        finish reading.state = .error failure := by
  have start : (Reading.operand []).Fits := trivial
  rw [value] at failed
  split at failed
  · next state ran =>
    obtain ⟨reading, read, fits, rfl⟩ := (run_eq_ok_iff start tokens state).mp ran
    exact .inr ⟨reading, read, fits, failed⟩
  · next raised ran =>
    cases failed
    exact .inl (run_eq_error start ran)

/-- The evaluation of the tokens leaves the limits with the last of those consumed. These are viable,
    but all that they begin leaves the limits; so it fails whatever follows them, and what is not
    viable comes later. -/
structure LeavesLimits (tokens consumed : List Token) (failure : Failure) : Prop where
  begins : consumed <+: tokens
  fails : FailsAt consumed failure
  viable : Viable consumed
  beyond : ∀ expr : Expr, consumed <+: expr.tokens → ¬ (expr.depth ≤ maxDepth ∧ expr.NoZeroDivisor)
  whatever : ∀ more, value (consumed ++ more) = .error failure
  first : ∀ cut, cut <+: tokens → ¬ Viable cut → consumed.length < cut.length

theorem FailsAt.beyond {consumed : List Token} {failure : Failure} (fails : FailsAt consumed failure)
    {expr : Expr} (begins : consumed <+: expr.tokens) :
    ¬ (expr.depth ≤ maxDepth ∧ expr.NoZeroDivisor) := by
  rintro ⟨shallow, divides⟩
  have tree := (Expr.ofTokens?_eq_some_iff expr.tokens expr).mpr rfl
  rw [Expr.ofTokens?, Option.bind_eq_some_iff] at tree
  obtain ⟨reading, read, complete⟩ := tree
  have fits : reading.Fits := (fits_of_result? complete).mpr ⟨by omega, divides⟩
  have ran := run_of_nextAll read fits
  obtain ⟨more, whole⟩ := begins
  rw [← whole, run_append, fails.1] at ran
  cases ran

theorem FailsAt.leavesLimits {consumed : List Token} {failure : Failure}
    (fails : FailsAt consumed failure) (viable : Viable consumed) (rest : List Token) :
    LeavesLimits (consumed ++ rest) consumed failure where
  begins := List.prefix_append ..
  fails := fails
  viable := viable
  beyond _ := fails.beyond
  whatever := fails.value_append
  first := by
    intro cut within broken
    refine Nat.lt_of_not_le fun short => ?_
    obtain ⟨more, rfl⟩ := List.prefix_of_prefix_length_le within (List.prefix_append ..) short
    exact broken viable.of_append

/-- What a failure says about the tokens that are evaluated. -/
def Explains (tokens : List Token) : Failure → Prop
  | .unexpectedToken token => ∃ before rest, tokens = before ++ token :: rest ∧
      Viable before ∧ ¬ Viable (before ++ [token])
  | .unexpectedEnd => ¬ IsSentence tokens ∧ Viable tokens
  | .divisionByZero => ∃ consumed, LeavesLimits tokens consumed .divisionByZero
  | .tooDeep => ∃ consumed, LeavesLimits tokens consumed .tooDeep
  | .notFinite => ∃ expr : Expr, expr.tokens = tokens ∧ expr.depth ≤ maxDepth ∧
      expr.NoZeroDivisor ∧ expr.value.isFinite = false
  | .unexpectedChar _ => False
  | .badNumber _ => False

theorem explains_of_step {before rest : List Token} {token : Token} {reading : Reading}
    {failure : Failure} (read : Reading.nextAll (.operand []) before = some reading)
    (fits : reading.Fits) (failed : step reading.state token = .error failure) :
    Explains (before ++ token :: rest) failure := by
  have further : Reading.nextAll (.operand []) (before ++ [token]) = reading.next token := by
    rw [Reading.nextAll_append, read, Option.bind_some, Reading.nextAll_cons]
    cases reading.next token <;> rfl
  rcases step_eq_error fits failed with ⟨refused, rfl⟩ | ⟨after, followed, limit⟩
  · refine ⟨before, rest, rfl, (viable_iff before).mpr ⟨reading, read⟩, fun viable => ?_⟩
    obtain ⟨after, followed⟩ := (viable_iff _).mp viable
    rw [further, refused] at followed
    cases followed
  · have viable : Viable (before ++ [token]) := (viable_iff _).mpr ⟨after, further.trans followed⟩
    have fails := failsAt_concat (run_of_nextAll read fits) failed
    have leaves := fails.leavesLimits viable rest
    rw [List.append_assoc, List.singleton_append] at leaves
    rcases limit with rfl | rfl
    · exact ⟨_, leaves⟩
    · exact ⟨_, leaves⟩

theorem explains_of_finish {tokens : List Token} {reading : Reading} {failure : Failure}
    (read : Reading.nextAll (.operand []) tokens = some reading) (fits : reading.Fits)
    (failed : finish reading.state = .error failure) : Explains tokens failure := by
  rcases finish_eq_error failed with ⟨incomplete, rfl⟩ | ⟨expr, complete, rfl, infinite⟩
  · refine ⟨fun sentence => ?_, (viable_iff tokens).mpr ⟨reading, read⟩⟩
    obtain ⟨again, expr, same, complete⟩ := (isSentence_iff tokens).mp sentence
    cases read.symm.trans same
    rw [incomplete] at complete
    cases complete
  · have tree : Expr.ofTokens? tokens = some expr := by rw [Expr.ofTokens?, read]; exact complete
    obtain ⟨shallow, divides⟩ := (fits_of_result? complete).mp fits
    exact ⟨expr, (Expr.ofTokens?_eq_some_iff tokens expr).mp tree, by omega, divides, infinite⟩

/-- A failing evaluation reports the first error. An unexpected token is the first that leaves nothing
    viable, and the end is unexpected where only more tokens are missing. A zero divisor and too deep
    a nesting are reported with the token that brings them about, when all up to it is viable. What is
    not finite is the value of a sentence within the limits. -/
theorem reports_first_error {tokens : List Token} {failure : Failure}
    (failed : value tokens = .error failure) : Explains tokens failure := by
  rcases value_eq_error failed with ⟨before, token, rest, reading, rfl, read, fits, refused⟩ |
    ⟨reading, read, fits, unfinished⟩
  · exact explains_of_step read fits refused
  · exact explains_of_finish read fits unfinished

theorem reports_zero_divisor_before_parenthesis :
    value [.number 1, .divide, .number 0, .closing] = .error .divisionByZero ∧
      Explains [.number 1, .divide, .number 0, .closing] .divisionByZero := by
  have zero : ((0 : Float) == 0) = true := by decide
  have failed : value [.number 1, .divide, .number 0, .closing] = .error .divisionByZero := by
    simp [value, run, step, settle, ProductOp.apply, Except.map, zero]
  exact ⟨failed, reports_first_error failed⟩

end Calc
end PathShell
