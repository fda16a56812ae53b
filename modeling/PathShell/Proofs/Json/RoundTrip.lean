import PathShell.Proofs.Json.Grammar
import PathShell.Proofs.Json.Number
import PathShell.Proofs.Json.Spelling

/-!
# Reading written JSON back

Both written forms of a value, with and without blanks, spell its tokens. So reading either gives the
value back, members in their order and repeated keys included, as long as its numbers are numbers and
no more arrays and objects stand open at once than may.
-/

namespace PathShell
namespace Json

mutual

/-- Every number in the value is one. -/
def Value.Sound : Value → Prop
  | .null => True
  | .bool _ => True
  | .number text => (∀ c ∈ text.toList, isWordChar c = true) ∧ isNumber text.toList = true
  | .string _ => True
  | .array items => SoundItems items
  | .object members => SoundMembers members

def SoundItems : List Value → Prop
  | [] => True
  | item :: rest => item.Sound ∧ SoundItems rest

def SoundMembers : List (String × Value) → Prop
  | [] => True
  | (_, value) :: rest => value.Sound ∧ SoundMembers rest

end

theorem sound_ofNat {n : Nat} (small : n < Nat.pow 2 64) : (Value.ofNat n).Sound := by
  rw [Value.ofNat, Value.Sound, String.toList_ofList]
  refine ⟨fun c member => ?_, isNumber_toDigits small⟩
  have digit : c.isDigit = true := Nat.isDigit_of_mem_toDigits (by decide) (by decide) member
  simp [isWordChar, Char.isAlphanum, digit]

/-! ## Pieces -/

theorem noWordFirst_nil : NoWordFirst [] := by simp [NoWordFirst]

theorem noWordFirst_cons {c : Char} (other : isWordChar c = false) (rest : List Char) :
    NoWordFirst (c :: rest) := by
  intro d member
  cases member
  exact other

theorem noWordFirst_newLine (depth : Nat) (rest : List Char) : NoWordFirst (newLine depth ++ rest) :=
  noWordFirst_cons (by decide) _

theorem Spells.newLine {cs : List Char} {tokens : List Token} (depth : Nat)
    (rest : Spells cs tokens) : Spells (newLine depth ++ cs) tokens := by
  refine .space (by decide) ?_
  induction 2 * depth with
  | zero => exact rest
  | succ n ih => exact .space (by decide) ih

theorem ofWord?_of_isNumber {word : List Char} (number : isNumber word = true) :
    ofWord? word = some (.scalar (.number (String.ofList word))) := by
  have noTrue : word ≠ ['t', 'r', 'u', 'e'] := by rintro rfl; exact absurd number (by decide)
  have noFalse : word ≠ ['f', 'a', 'l', 's', 'e'] := by rintro rfl; exact absurd number (by decide)
  have noNull : word ≠ ['n', 'u', 'l', 'l'] := by rintro rfl; exact absurd number (by decide)
  simp [ofWord?, noTrue, noFalse, noNull, number]

/-- A value that holds no others is written alike in both forms. -/
theorem Spells.number {text : String} {cs : List Char} {tokens : List Token}
    (sound : (Value.number text).Sound) (ends : NoWordFirst cs) (rest : Spells cs tokens) :
    Spells (text.toList ++ cs) (.scalar (.number text) :: tokens) := by
  rw [Value.Sound] at sound
  refine .word sound.1 ?_ ends rest
  rw [ofWord?_of_isNumber sound.2, String.ofList_toList]

theorem Spells.boolTrue {cs : List Char} {tokens : List Token} (ends : NoWordFirst cs)
    (rest : Spells cs tokens) :
    Spells (['t', 'r', 'u', 'e'] ++ cs) (.scalar (.bool true) :: tokens) :=
  .word (List.all_eq_true.mp rfl) (by simp [ofWord?]) ends rest

theorem Spells.boolFalse {cs : List Char} {tokens : List Token} (ends : NoWordFirst cs)
    (rest : Spells cs tokens) :
    Spells (['f', 'a', 'l', 's', 'e'] ++ cs) (.scalar (.bool false) :: tokens) :=
  .word (List.all_eq_true.mp rfl) (by simp [ofWord?]) ends rest

theorem Spells.null {cs : List Char} {tokens : List Token} (ends : NoWordFirst cs)
    (rest : Spells cs tokens) :
    Spells (['n', 'u', 'l', 'l'] ++ cs) (.scalar .null :: tokens) :=
  .word (List.all_eq_true.mp rfl) (by simp [ofWord?]) ends rest

/-! ## The compact form -/

theorem compactItems_cons_cons (item second : Value) (rest : List Value) :
    compactItems (item :: second :: rest) = item.compactChars ++ ',' :: compactItems (second :: rest) :=
  rfl

theorem compactMembers_cons_cons (key : String) (value : Value) (second : String × Value)
    (rest : List (String × Value)) :
    compactMembers ((key, value) :: second :: rest) =
      quote key ++ ':' :: value.compactChars ++ ',' :: compactMembers (second :: rest) := rfl

mutual

theorem spells_compactChars (value : Value) (sound : value.Sound) {cs : List Char}
    {tokens : List Token} (ends : NoWordFirst cs) (rest : Spells cs tokens) :
    Spells (value.compactChars ++ cs) (value.tokens ++ tokens) := by
  cases value with
  | null => exact .null ends rest
  | bool value =>
    cases value with
    | false => exact .boolFalse ends rest
    | true => exact .boolTrue ends rest
  | number text => exact .number sound ends rest
  | string text => exact .string text rest
  | array items =>
    rw [Value.Sound] at sound
    have closed : Spells (']' :: cs) (.closeArray :: tokens) := .mark rfl rest
    have inner := spells_compactItems items sound (noWordFirst_cons (by decide) cs) closed
    rw [Value.compactChars, Value.tokens, List.append_assoc, List.append_assoc]
    exact .mark rfl inner
  | object members =>
    rw [Value.Sound] at sound
    have closed : Spells ('\x7d' :: cs) (.closeObject :: tokens) := .mark rfl rest
    have inner := spells_compactMembers members sound (noWordFirst_cons (by decide) cs) closed
    rw [Value.compactChars, Value.tokens, List.append_assoc, List.append_assoc]
    exact .mark rfl inner

theorem spells_compactItems (items : List Value) (sound : SoundItems items) {cs : List Char}
    {tokens : List Token} (ends : NoWordFirst cs) (rest : Spells cs tokens) :
    Spells (compactItems items ++ cs) (itemTokens items ++ tokens) := by
  cases items with
  | nil => exact rest
  | cons item items =>
    rw [SoundItems] at sound
    cases items with
    | nil =>
      rw [compactItems, itemTokens]
      exact spells_compactChars item sound.1 ends rest
    | cons second items =>
      have others := spells_compactItems (second :: items) sound.2 ends rest
      have comma : Spells (',' :: (compactItems (second :: items) ++ cs))
          (.comma :: (itemTokens (second :: items) ++ tokens)) := .mark rfl others
      have whole := spells_compactChars item sound.1 (noWordFirst_cons (by decide) _) comma
      rw [itemTokens_cons_cons, compactItems_cons_cons, List.append_assoc, List.append_assoc]
      exact whole

theorem spells_compactMembers (members : List (String × Value)) (sound : SoundMembers members)
    {cs : List Char} {tokens : List Token} (ends : NoWordFirst cs) (rest : Spells cs tokens) :
    Spells (compactMembers members ++ cs) (memberTokens members ++ tokens) := by
  cases members with
  | nil => exact rest
  | cons member members =>
    obtain ⟨key, value⟩ := member
    rw [SoundMembers] at sound
    cases members with
    | nil =>
      have held := spells_compactChars value sound.1 ends rest
      rw [compactMembers, memberTokens, List.append_assoc]
      exact .string key (.mark rfl held)
    | cons second members =>
      have others := spells_compactMembers (second :: members) sound.2 ends rest
      have comma : Spells (',' :: (compactMembers (second :: members) ++ cs))
          (.comma :: (memberTokens (second :: members) ++ tokens)) := .mark rfl others
      have held := spells_compactChars value sound.1 (noWordFirst_cons (by decide) _) comma
      rw [memberTokens_cons_cons, compactMembers_cons_cons]
      simp only [List.append_assoc, List.cons_append]
      exact .string key (.mark rfl held)

end

/-! ## The indented form -/

theorem indentedItems_cons_cons (depth : Nat) (item second : Value) (rest : List Value) :
    indentedItems depth (item :: second :: rest) =
      newLine depth ++ item.indentedChars depth ++ ',' :: indentedItems depth (second :: rest) := rfl

theorem indentedMembers_cons_cons (depth : Nat) (key : String) (value : Value)
    (second : String × Value) (rest : List (String × Value)) :
    indentedMembers depth ((key, value) :: second :: rest) =
      newLine depth ++ quote key ++ ':' :: ' ' :: value.indentedChars depth
        ++ ',' :: indentedMembers depth (second :: rest) := rfl

mutual

theorem spells_indentedChars (depth : Nat) (value : Value) (sound : value.Sound) {cs : List Char}
    {tokens : List Token} (ends : NoWordFirst cs) (rest : Spells cs tokens) :
    Spells (value.indentedChars depth ++ cs) (value.tokens ++ tokens) := by
  cases value with
  | null => exact .null ends rest
  | bool value =>
    cases value with
    | false => exact .boolFalse ends rest
    | true => exact .boolTrue ends rest
  | number text => exact .number sound ends rest
  | string text => exact .string text rest
  | array items =>
    rw [Value.Sound] at sound
    have closed : Spells (']' :: cs) (.closeArray :: tokens) := .mark rfl rest
    cases items with
    | nil => exact .mark rfl closed
    | cons item items =>
      have inner := spells_indentedItems (depth + 1) (item :: items) sound
        (noWordFirst_newLine depth _) (closed.newLine depth)
      rw [Value.indentedChars, Value.tokens]
      · simp only [List.append_assoc, List.cons_append]
        exact .mark rfl inner
      · simp
  | object members =>
    rw [Value.Sound] at sound
    have closed : Spells ('\x7d' :: cs) (.closeObject :: tokens) := .mark rfl rest
    cases members with
    | nil => exact .mark rfl closed
    | cons member members =>
      have inner := spells_indentedMembers (depth + 1) (member :: members) sound
        (noWordFirst_newLine depth _) (closed.newLine depth)
      rw [Value.indentedChars, Value.tokens]
      · simp only [List.append_assoc, List.cons_append]
        exact .mark rfl inner
      · simp

theorem spells_indentedItems (depth : Nat) (items : List Value) (sound : SoundItems items)
    {cs : List Char} {tokens : List Token} (ends : NoWordFirst cs) (rest : Spells cs tokens) :
    Spells (indentedItems depth items ++ cs) (itemTokens items ++ tokens) := by
  cases items with
  | nil => exact rest
  | cons item items =>
    rw [SoundItems] at sound
    cases items with
    | nil =>
      rw [indentedItems, itemTokens, List.append_assoc]
      exact (spells_indentedChars depth item sound.1 ends rest).newLine depth
    | cons second items =>
      have others := spells_indentedItems depth (second :: items) sound.2 ends rest
      have comma : Spells (',' :: (indentedItems depth (second :: items) ++ cs))
          (.comma :: (itemTokens (second :: items) ++ tokens)) := .mark rfl others
      have whole := spells_indentedChars depth item sound.1 (noWordFirst_cons (by decide) _) comma
      rw [itemTokens_cons_cons, indentedItems_cons_cons]
      simp only [List.append_assoc, List.cons_append]
      exact whole.newLine depth

theorem spells_indentedMembers (depth : Nat) (members : List (String × Value))
    (sound : SoundMembers members) {cs : List Char} {tokens : List Token} (ends : NoWordFirst cs)
    (rest : Spells cs tokens) :
    Spells (indentedMembers depth members ++ cs) (memberTokens members ++ tokens) := by
  cases members with
  | nil => exact rest
  | cons member members =>
    obtain ⟨key, value⟩ := member
    rw [SoundMembers] at sound
    cases members with
    | nil =>
      have held := spells_indentedChars depth value sound.1 ends rest
      rw [indentedMembers, memberTokens]
      simp only [List.append_assoc, List.cons_append]
      exact Spells.newLine depth (.string key (.mark rfl (.space (by decide) held)))
    | cons second members =>
      have others := spells_indentedMembers depth (second :: members) sound.2 ends rest
      have comma : Spells (',' :: (indentedMembers depth (second :: members) ++ cs))
          (.comma :: (memberTokens (second :: members) ++ tokens)) := .mark rfl others
      have held := spells_indentedChars depth value sound.1 (noWordFirst_cons (by decide) _) comma
      rw [memberTokens_cons_cons, indentedMembers_cons_cons]
      simp only [List.append_assoc, List.cons_append]
      exact Spells.newLine depth (.string key (.mark rfl (.space (by decide) held)))

end

/-! ## Whole texts -/

/-- A text that spells the tokens of a value is read as that value. -/
theorem read?_of_spells {cs : List Char} {value : Value} (spelled : Spells cs value.tokens)
    (shallow : value.depth ≤ maxOpen) : read? (String.ofList cs) = some value := by
  have read := spelled.value? (.value [])
  rw [run?_tokens_start shallow] at read
  rw [Json.read?, String.toList_ofList]
  exact read

/-- The text without blanks is read as the value that it writes. -/
theorem read?_compact {value : Value} (sound : value.Sound) (shallow : value.depth ≤ maxOpen) :
    read? value.compact = some value := by
  have spelled := spells_compactChars value sound noWordFirst_nil .done
  exact read?_of_spells (by simpa using spelled) shallow

/-- The text with a line per item is read as the value that it writes. -/
theorem read?_indented {value : Value} (sound : value.Sound) (shallow : value.depth ≤ maxOpen) :
    read? value.indented = some value := by
  have spelled := spells_indentedChars 0 value sound noWordFirst_nil .done
  exact read?_of_spells (by simpa using spelled) shallow

end Json
end PathShell
