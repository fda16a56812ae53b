import PathShell.Json.Printer
import PathShell.Json.Reader

/-!
# Characters and tokens

When characters spell tokens: strings are written in quotes, words end before what cannot continue
them, and blanks stand anywhere between. What is spelled is read as its tokens, whatever they mean.
-/

namespace PathShell
namespace Json

/-- Nothing at the front continues a word. -/
def NoWordFirst (rest : List Char) : Prop := ∀ c ∈ rest.head?, isWordChar c = false

/-- The characters spell the tokens. -/
inductive Spells : List Char → List Token → Prop where
  | done : Spells [] []
  | space {c : Char} {cs : List Char} {tokens : List Token} (blank : isSpace c = true)
      (rest : Spells cs tokens) : Spells (c :: cs) tokens
  | mark {c : Char} {token : Token} {cs : List Char} {tokens : List Token}
      (meant : mark? c = some token) (rest : Spells cs tokens) : Spells (c :: cs) (token :: tokens)
  | string (text : String) {cs : List Char} {tokens : List Token} (rest : Spells cs tokens) :
      Spells (quote text ++ cs) (.string text :: tokens)
  | word {word : List Char} {token : Token} {cs : List Char} {tokens : List Token}
      (letters : ∀ c ∈ word, isWordChar c = true) (meant : ofWord? word = some token)
      (ends : NoWordFirst cs) (rest : Spells cs tokens) : Spells (word ++ cs) (token :: tokens)

/-! ## One character after the other -/

/-- The value that has been read once the text is over. -/
def Reading.value? (reading : Reading) (cs : List Char) : Option Value :=
  (reading.run? cs).bind Reading.finish?

theorem Reading.value?_cons (reading : Reading) (c : Char) (cs : List Char) :
    reading.value? (c :: cs) = (reading.next? c).bind (·.value? cs) := by
  rw [Reading.value?, Reading.run?]
  cases reading.next? c <;> rfl

/-- A character that completes no token. -/
theorem Reading.value?_of_quiet {mode after : Mode} {c : Char}
    (quiet : mode.next? c = some (after, [])) (expected : Expected) (cs : List Char) :
    Reading.value? ⟨mode, expected⟩ (c :: cs) = Reading.value? ⟨after, expected⟩ cs := by
  rw [Reading.value?_cons, Reading.next?, quiet]
  rfl

/-- A character that completes one token. -/
theorem Reading.value?_of_token {mode after : Mode} {c : Char} {token : Token}
    (complete : mode.next? c = some (after, [token])) (expected : Expected) (cs : List Char) :
    Reading.value? ⟨mode, expected⟩ (c :: cs) =
      (expected.next? token).bind fun next => Reading.value? ⟨after, next⟩ cs := by
  rw [Reading.value?_cons, Reading.next?, complete]
  simp only [Expected.run?]
  cases expected.next? token <;> rfl

/-! ## Strings -/

theorem hexValue?_hexDigit (n : Nat) : Digits.hexValue? (hexDigit n) = some (n % 16) := by
  have digits : ∀ digit : Fin 16, Digits.hexValue? (Nat.digitChar digit.val) = some digit.val := by
    decide
  exact digits ⟨n % 16, Nat.mod_lt n (by decide)⟩

/-- A control character as a code unit. -/
theorem Reading.value?_control {c : Char} (control : c.toNat < 0x20) (read : List Char)
    (expected : Expected) (cs : List Char) :
    Reading.value? ⟨.text read, expected⟩
        (['\\', 'u', '0', '0', hexDigit (c.toNat / 16), hexDigit c.toNat] ++ cs) =
      Reading.value? ⟨.text (c :: read), expected⟩ cs := by
  have high : c.toNat / 16 % 16 = c.toNat / 16 := by omega
  have whole : 16 * (c.toNat / 16) + c.toNat % 16 = c.toNat := by omega
  have opened : Mode.next? (.text read) '\\' = some (.escape read, []) := rfl
  have begun : Mode.next? (.escape read) 'u' = some (.unit read none 0 0, []) := rfl
  have first : Mode.next? (.unit read none 0 0) '0' = some (.unit read none 0 1, []) := rfl
  have second : Mode.next? (.unit read none 0 1) '0' = some (.unit read none 0 2, []) := rfl
  have third : Mode.next? (.unit read none 0 2) (hexDigit (c.toNat / 16)) =
      some (.unit read none (c.toNat / 16) 3, []) := by
    simp [Mode.next?, hexValue?_hexDigit, high]
  have unit : ofUnit? read none c.toNat = some (.text (c :: read)) := by
    rw [ofUnit?, if_neg (by omega), if_neg (by omega), Char.ofNat_toNat]
  have fourth : Mode.next? (.unit read none (c.toNat / 16) 3) (hexDigit c.toNat) =
      some (.text (c :: read), []) := by
    simp [Mode.next?, hexValue?_hexDigit, whole, unit]
  calc
    _ = _ := Reading.value?_of_quiet opened _ _
    _ = _ := Reading.value?_of_quiet begun _ _
    _ = _ := Reading.value?_of_quiet first _ _
    _ = _ := Reading.value?_of_quiet second _ _
    _ = _ := Reading.value?_of_quiet third _ _
    _ = _ := Reading.value?_of_quiet fourth _ _

/-- The written form of a character inside a string is read as that character. -/
theorem Reading.value?_escapeChar (read : List Char) (c : Char) (expected : Expected)
    (cs : List Char) :
    Reading.value? ⟨.text read, expected⟩ (escapeChar c ++ cs) =
      Reading.value? ⟨.text (c :: read), expected⟩ cs := by
  have escape (letter : Char) (apart : letter ≠ 'u') (plain : unescape? letter = some c) :
      Reading.value? ⟨.text read, expected⟩ (['\\', letter] ++ cs) =
        Reading.value? ⟨.text (c :: read), expected⟩ cs := by
    have opened : Mode.next? (.text read) '\\' = some (.escape read, []) := rfl
    have closed : Mode.next? (.escape read) letter = some (.text (c :: read), []) := by
      simp [Mode.next?, apart, plain]
    exact (Reading.value?_of_quiet opened _ _).trans (Reading.value?_of_quiet closed _ _)
  rw [escapeChar]
  split
  · next same => subst same; exact escape '\x22' (by decide) rfl
  rename_i noQuote
  split
  · next same => subst same; exact escape '\\' (by decide) rfl
  rename_i noBackslash
  split
  · next same => subst same; exact escape 'b' (by decide) rfl
  split
  · next same => subst same; exact escape 'f' (by decide) rfl
  split
  · next same => subst same; exact escape 'n' (by decide) rfl
  split
  · next same => subst same; exact escape 'r' (by decide) rfl
  split
  · next same => subst same; exact escape 't' (by decide) rfl
  split
  · next control => exact Reading.value?_control control read expected cs
  · next printable =>
    refine Reading.value?_of_quiet ?_ _ _
    simp [Mode.next?, noQuote, noBackslash, printable]

theorem Reading.value?_escapeChars (chars read : List Char) (expected : Expected)
    (cs : List Char) :
    Reading.value? ⟨.text read, expected⟩ (chars.flatMap escapeChar ++ cs) =
      Reading.value? ⟨.text (chars.reverse ++ read), expected⟩ cs := by
  induction chars generalizing read with
  | nil => rfl
  | cons c chars ih =>
    rw [List.flatMap_cons, List.append_assoc, Reading.value?_escapeChar, ih]
    simp

/-- A string in quotes is read as its token. -/
theorem Reading.value?_quote (text : String) (expected : Expected) (cs : List Char) :
    Reading.value? ⟨.between, expected⟩ (quote text ++ cs) =
      (expected.next? (.string text)).bind fun next => Reading.value? ⟨.between, next⟩ cs := by
  have opened : Mode.next? .between '\x22' = some (.text [], []) := rfl
  have closed : Mode.next? (.text text.toList.reverse) '\x22' = some (.between, [.string text]) := by
    simp [Mode.next?]
  rw [quote, List.append_assoc, List.cons_append, Reading.value?_of_quiet opened,
    Reading.value?_escapeChars, List.append_nil]
  exact Reading.value?_of_token closed expected cs

/-! ## What begins something new -/

theorem eq_of_isSpace {c : Char} (blank : isSpace c = true) :
    c = ' ' ∨ c = '\t' ∨ c = '\n' ∨ c = '\r' := by
  simpa [isSpace, or_assoc] using blank

theorem begin?_of_isWordChar {c : Char} (letter : isWordChar c = true) :
    begin? c = some (.word [c], []) := by
  have noSpace : isSpace c = false := by
    refine Bool.eq_false_iff.mpr fun blank => ?_
    rcases eq_of_isSpace blank with rfl | rfl | rfl | rfl <;> contradiction
  have noQuote : c ≠ '\x22' := by rintro rfl; contradiction
  have noMark : mark? c = none := by
    unfold mark?
    split
    · next same => subst same; contradiction
    split
    · next same => subst same; contradiction
    split
    · next same => subst same; contradiction
    split
    · next same => subst same; contradiction
    split
    · next same => subst same; contradiction
    split
    · next same => subst same; contradiction
    · rfl
  simp [begin?, noSpace, noQuote, noMark, letter]

theorem begin?_of_mark? {c : Char} {token : Token} (meant : mark? c = some token) :
    begin? c = some (.between, [token]) := by
  have noSpace : isSpace c = false := by
    refine Bool.eq_false_iff.mpr fun blank => ?_
    rcases eq_of_isSpace blank with rfl | rfl | rfl | rfl <;> cases meant
  have noQuote : c ≠ '\x22' := by rintro rfl; cases meant
  simp [begin?, noSpace, noQuote, meant]

/-! ## Words -/

/-- The characters of a word join it. -/
theorem Reading.value?_letters {letters : List Char}
    (all : ∀ c ∈ letters, isWordChar c = true) (read : List Char) (expected : Expected)
    (cs : List Char) :
    Reading.value? ⟨.word read, expected⟩ (letters ++ cs) =
      Reading.value? ⟨.word (letters.reverse ++ read), expected⟩ cs := by
  induction letters generalizing read with
  | nil => rfl
  | cons c letters ih =>
    have joins : Mode.next? (.word read) c = some (.word (c :: read), []) := by
      simp [Mode.next?, all c List.mem_cons_self]
    rw [List.cons_append, Reading.value?_of_quiet joins,
      ih (fun d member => all d (List.mem_cons_of_mem c member))]
    simp

/-- A word ends where nothing continues it, and is read as its token. -/
theorem Reading.value?_endWord {read : List Char} {token : Token} {cs : List Char}
    (meant : ofWord? read.reverse = some token) (ends : NoWordFirst cs) (expected : Expected) :
    Reading.value? ⟨.word read, expected⟩ cs =
      (expected.next? token).bind fun next => Reading.value? ⟨.between, next⟩ cs := by
  cases cs with
  | nil =>
    simp only [Reading.value?, Reading.run?, Option.bind_some, Reading.finish?, Mode.atEnd?, meant,
      Option.map_some, Expected.run?]
    cases expected.next? token <;> rfl
  | cons c cs =>
    have other : isWordChar c = false := ends c rfl
    -- The same character ends the word and begins what follows it, so its tokens come as one list.
    cases begun : begin? c with
    | none =>
      have stuck : Mode.next? (.word read) c = none := by simp [Mode.next?, other, meant, begun]
      have stuckBetween : Mode.next? .between c = none := begun
      rw [Reading.value?_cons, Reading.next?, stuck]
      cases expected.next? token with
      | none => rfl
      | some next => simp [Reading.value?_cons, Reading.next?, stuckBetween]
    | some begun' =>
      obtain ⟨mode, tokens⟩ := begun'
      have moved : Mode.next? (.word read) c = some (mode, token :: tokens) := by
        simp [Mode.next?, other, meant, begun]
      have movedBetween : Mode.next? .between c = some (mode, tokens) := begun
      rw [Reading.value?_cons, Reading.next?, moved]
      simp only [Expected.run?]
      cases expected.next? token with
      | none => rfl
      | some next => simp [Reading.value?_cons, Reading.next?, movedBetween]

theorem Reading.value?_word {word : List Char} {token : Token} {cs : List Char}
    (letters : ∀ c ∈ word, isWordChar c = true) (meant : ofWord? word = some token)
    (ends : NoWordFirst cs) (expected : Expected) :
    Reading.value? ⟨.between, expected⟩ (word ++ cs) =
      (expected.next? token).bind fun next => Reading.value? ⟨.between, next⟩ cs := by
  cases word with
  | nil => cases meant
  | cons c word =>
    have begun : Mode.next? .between c = some (.word [c], []) :=
      begin?_of_isWordChar (letters c List.mem_cons_self)
    rw [List.cons_append, Reading.value?_of_quiet begun,
      Reading.value?_letters (fun d member => letters d (List.mem_cons_of_mem c member)),
      Reading.value?_endWord (by simpa using meant) ends]

/-! ## Tokens -/

/-- What spells tokens is read as those tokens. -/
theorem Spells.value? {cs : List Char} {tokens : List Token} (spelled : Spells cs tokens)
    (expected : Expected) :
    Reading.value? ⟨.between, expected⟩ cs =
      (expected.run? tokens).bind fun last => Reading.finish? ⟨.between, last⟩ := by
  induction spelled generalizing expected with
  | done => rfl
  | @space c _ _ blank _ ih =>
    have quiet : Mode.next? .between c = some (.between, []) := by simp [Mode.next?, begin?, blank]
    rw [Reading.value?_of_quiet quiet, ih]
  | @mark c token _ _ meant _ ih =>
    have complete : Mode.next? .between c = some (.between, [token]) := begin?_of_mark? meant
    rw [Reading.value?_of_token complete]
    simp only [ih, Expected.run?]
    cases expected.next? _ <;> rfl
  | string text _ ih =>
    rw [Reading.value?_quote]
    simp only [ih, Expected.run?]
    cases expected.next? _ <;> rfl
  | word letters meant ends _ ih =>
    rw [Reading.value?_word letters meant ends]
    simp only [ih, Expected.run?]
    cases expected.next? _ <;> rfl

end Json
end PathShell
