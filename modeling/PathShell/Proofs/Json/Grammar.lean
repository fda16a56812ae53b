import PathShell.Json.Reader

/-!
# The tokens of a JSON value

Every value has its tokens, and reading them where a value is expected delivers just that value, as
long as no more arrays and objects stand open than may.
-/

namespace PathShell
namespace Json

mutual

/-- How many arrays and objects stand open at once in a value. -/
def Value.depth : Value → Nat
  | .null => 0
  | .bool _ => 0
  | .number _ => 0
  | .string _ => 0
  | .array items => itemsDepth items + 1
  | .object members => membersDepth members + 1

def itemsDepth : List Value → Nat
  | [] => 0
  | item :: rest => max item.depth (itemsDepth rest)

def membersDepth : List (String × Value) → Nat
  | [] => 0
  | (_, value) :: rest => max value.depth (membersDepth rest)

end

mutual

/-- The tokens in the order in which they are written. -/
def Value.tokens : Value → List Token
  | .null => [.scalar .null]
  | .bool value => [.scalar (.bool value)]
  | .number text => [.scalar (.number text)]
  | .string text => [.string text]
  | .array items => .openArray :: itemTokens items ++ [.closeArray]
  | .object members => .openObject :: memberTokens members ++ [.closeObject]

def itemTokens : List Value → List Token
  | [] => []
  | [item] => item.tokens
  | item :: rest => item.tokens ++ .comma :: itemTokens rest

def memberTokens : List (String × Value) → List Token
  | [] => []
  | [(key, value)] => .string key :: .colon :: value.tokens
  | (key, value) :: rest => .string key :: .colon :: value.tokens ++ .comma :: memberTokens rest

end

theorem itemTokens_cons_cons (item second : Value) (rest : List Value) :
    itemTokens (item :: second :: rest) = item.tokens ++ .comma :: itemTokens (second :: rest) := rfl

theorem memberTokens_cons_cons (key : String) (value : Value) (second : String × Value)
    (rest : List (String × Value)) :
    memberTokens ((key, value) :: second :: rest) =
      .string key :: .colon :: value.tokens ++ .comma :: memberTokens (second :: rest) := rfl

/-! ## Tokens in turn -/

@[simp] theorem Expected.run?_nil (expected : Expected) : expected.run? [] = some expected := rfl

theorem Expected.run?_cons (expected : Expected) (token : Token) (rest : List Token) :
    expected.run? (token :: rest) = (expected.next? token).bind (·.run? rest) := by
  rw [Expected.run?]
  cases expected.next? token <;> rfl

/-- No value begins with the end of an array. -/
theorem Value.tokens_cons (value : Value) :
    ∃ token rest, value.tokens = token :: rest ∧ token ≠ .closeArray := by
  cases value <;> exact ⟨_, _, rfl, by simp⟩

/-- A first item is read like any other value. -/
theorem run?_itemOrEnd (value : Value) (stack : List Frame) (rest : List Token) :
    (Expected.itemOrEnd stack).run? (value.tokens ++ rest) =
      (Expected.value stack).run? (value.tokens ++ rest) := by
  obtain ⟨token, more, shape, apart⟩ := value.tokens_cons
  rw [shape, List.cons_append, Expected.run?_cons, Expected.run?_cons]
  have same : (Expected.itemOrEnd stack).next? token = beginValue stack token := by
    rw [Expected.next?]
    intros
    contradiction
  rw [same]
  rfl

/-! ## Values -/

mutual

/-- The tokens of a value, where a value is expected, deliver that value. -/
theorem run?_tokens (value : Value) (stack : List Frame) (rest : List Token)
    (room : stack.length + value.depth ≤ maxOpen) :
    (Expected.value stack).run? (value.tokens ++ rest) =
      (deliver value stack).bind (·.run? rest) := by
  cases value with
  | null => exact Expected.run?_cons _ _ _
  | bool value => exact Expected.run?_cons _ _ _
  | number text => exact Expected.run?_cons _ _ _
  | string text => exact Expected.run?_cons _ _ _
  | array items =>
    rw [Value.depth] at room
    have opened : stack.length < maxOpen := by omega
    rw [Value.tokens, List.append_assoc, List.cons_append, Expected.run?_cons, Expected.next?,
      beginValue, if_pos opened, Option.bind_some]
    cases items with
    | nil => exact Expected.run?_cons _ _ _
    | cons item items =>
      have read := run?_itemTokens (item :: items) (by simp) [] stack rest (by omega)
      rw [List.reverse_nil, List.nil_append] at read
      rw [← read]
      cases items with
      | nil => rw [itemTokens, run?_itemOrEnd]
      | cons second items => rw [itemTokens_cons_cons, List.append_assoc, run?_itemOrEnd]
  | object members =>
    rw [Value.depth] at room
    have opened : stack.length < maxOpen := by omega
    rw [Value.tokens, List.append_assoc, List.cons_append, Expected.run?_cons, Expected.next?,
      beginValue, if_pos opened, Option.bind_some]
    cases members with
    | nil => exact Expected.run?_cons _ _ _
    | cons member members =>
      have read := run?_memberTokens (member :: members) (by simp) [] stack rest (by omega)
      rw [List.reverse_nil, List.nil_append] at read
      rw [← read]
      obtain ⟨key, value⟩ := member
      cases members with
      | nil => rfl
      | cons second members => rfl

/-- The items that are left of an array, and its end. -/
theorem run?_itemTokens (items : List Value) (filled : items ≠ []) (done : List Value)
    (stack : List Frame) (rest : List Token)
    (room : stack.length + (itemsDepth items + 1) ≤ maxOpen) :
    (Expected.value (.array done :: stack)).run? (itemTokens items ++ ([.closeArray] ++ rest)) =
      (deliver (.array (done.reverse ++ items)) stack).bind (·.run? rest) := by
  cases items with
  | nil => contradiction
  | cons item items =>
    rw [itemsDepth] at room
    have first (after : List Token) := run?_tokens item (.array done :: stack) after
      (by simp only [List.length_cons]; omega)
    cases items with
    | nil =>
      rw [itemTokens, first, deliver, Option.bind_some]
      rw [List.cons_append, Expected.run?_cons, Expected.next?]
      simp
    | cons second items =>
      have others := run?_itemTokens (second :: items) (by simp) (item :: done) stack rest (by omega)
      rw [itemTokens_cons_cons, List.append_assoc, first, deliver, Option.bind_some]
      rw [List.cons_append, Expected.run?_cons, Expected.next?, Option.bind_some, others]
      simp

/-- The members that are left of an object, and its end. -/
theorem run?_memberTokens (members : List (String × Value)) (filled : members ≠ [])
    (done : List (String × Value)) (stack : List Frame) (rest : List Token)
    (room : stack.length + (membersDepth members + 1) ≤ maxOpen) :
    (Expected.key done stack).run? (memberTokens members ++ ([.closeObject] ++ rest)) =
      (deliver (.object (done.reverse ++ members)) stack).bind (·.run? rest) := by
  cases members with
  | nil => contradiction
  | cons member members =>
    obtain ⟨key, value⟩ := member
    rw [membersDepth] at room
    have first (after : List Token) := run?_tokens value (.field done key :: stack) after
      (by simp only [List.length_cons]; omega)
    cases members with
    | nil =>
      rw [memberTokens, List.cons_append, Expected.run?_cons, Expected.next?, Option.bind_some,
        List.cons_append, Expected.run?_cons, Expected.next?, Option.bind_some, first, deliver,
        Option.bind_some]
      rw [List.cons_append, Expected.run?_cons, Expected.next?]
      simp
    | cons second members =>
      have others := run?_memberTokens (second :: members) (by simp) ((key, value) :: done) stack rest
        (by omega)
      rw [memberTokens_cons_cons, List.append_assoc, List.cons_append, Expected.run?_cons,
        Expected.next?, Option.bind_some, List.cons_append, Expected.run?_cons, Expected.next?,
        Option.bind_some, first, deliver, Option.bind_some]
      rw [List.cons_append, Expected.run?_cons, Expected.next?, Option.bind_some, others]
      simp

end

/-- Read from the start, the tokens of a value leave nothing to follow it. -/
theorem run?_tokens_start {value : Value} (shallow : value.depth ≤ maxOpen) :
    (Expected.value []).run? value.tokens = some (.nothing value) := by
  have read := run?_tokens value [] [] (by simpa using shallow)
  simpa [deliver] using read

end Json
end PathShell
