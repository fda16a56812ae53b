import Mathlib.Logic.Relation
import PathShell.Proofs.Calc.FirstError

/-!
# Characters and tokens of expressions

An expression spells its tokens: one for each operator and parenthesis, and one for each run of
numerals, with blanks anywhere that does not cut a run. What cannot be spelled has a fault, and the
leftmost fault is what the evaluation reports, whatever else is wrong with the expression.
-/

namespace PathShell
namespace Calc

/-! ## Runs of numerals -/

def BeginsWithNumeral (cs : List Char) : Prop := ∃ c ∈ cs.head?, isNumeral c = true

def EndsInNumeral (cs : List Char) : Prop := ∃ c ∈ cs.getLast?, isNumeral c = true

/-- Numerals that stand together. -/
def IsRun (run : List Char) : Prop := run ≠ [] ∧ ∀ c ∈ run, isNumeral c = true

/-- No run of numerals reaches over the place between the two. -/
def Apart (before after : List Char) : Prop := ¬ (EndsInNumeral before ∧ BeginsWithNumeral after)

theorem not_beginsWithNumeral_cons {c : Char} (other : isNumeral c = false) (cs : List Char) :
    ¬ BeginsWithNumeral (c :: cs) := by
  rintro ⟨d, first, numeral⟩
  cases first
  rw [other] at numeral
  cases numeral

theorem IsRun.beginsWithNumeral {run : List Char} (isRun : IsRun run) (rest : List Char) :
    BeginsWithNumeral (run ++ rest) := by
  cases run with
  | nil => exact absurd rfl isRun.1
  | cons c cs => exact ⟨c, rfl, isRun.2 c List.mem_cons_self⟩

theorem endsInNumeral_append_iff {cs : List Char} (filled : cs ≠ []) (before : List Char) :
    EndsInNumeral (before ++ cs) ↔ EndsInNumeral cs := by
  simp [EndsInNumeral, List.getLast?_append, List.getLast?_eq_some_getLast filled]

/-! ## Lexemes -/

theorem flatten_lexemes (cs : List Char) : (lexemes cs).flatten = cs := by
  induction cs with
  | nil => rfl
  | cons c cs ih =>
    rw [lexemes]
    split
    · next d run rest shape =>
      rw [shape] at ih
      split
      · rw [← ih]; rfl
      · rw [← ih]; rfl
    · next other _ => rw [List.flatten_cons, ih]; rfl

theorem nil_not_mem_lexemes (cs : List Char) : [] ∉ lexemes cs := by
  induction cs with
  | nil => simp [lexemes]
  | cons c cs ih =>
    rw [lexemes]
    split
    · next d run rest shape =>
      rw [shape] at ih
      split
      · simpa using ih
      · simpa using ih
    · next other _ => simpa using ih

/-- What begins a text begins its first lexeme. -/
theorem lexemes_cons_shape (c : Char) (cs : List Char) :
    ∃ run rest, lexemes (c :: cs) = (c :: run) :: rest := by
  rw [lexemes]
  split
  · split
    · exact ⟨_, _, rfl⟩
    · exact ⟨_, _, rfl⟩
  · exact ⟨_, _, rfl⟩

theorem lexemes_cons_of_apart {c : Char} {cs : List Char} (apart : Apart [c] cs) :
    lexemes (c :: cs) = [c] :: lexemes cs := by
  cases cs with
  | nil => rfl
  | cons d cs =>
    obtain ⟨run, rest, shape⟩ := lexemes_cons_shape d cs
    have split : (isNumeral c && isNumeral d) = false := by
      refine Bool.eq_false_iff.mpr fun both => apart ?_
      rw [Bool.and_eq_true] at both
      exact ⟨⟨c, rfl, both.1⟩, d, rfl, both.2⟩
    rw [lexemes, shape]
    simp [split]

/-- Where no run reaches over a place, a text is cut there. -/
theorem lexemes_append {before after : List Char} (apart : Apart before after) :
    lexemes (before ++ after) = lexemes before ++ lexemes after := by
  induction before with
  | nil => rfl
  | cons c cs ih =>
    cases cs with
    | nil => exact lexemes_cons_of_apart apart
    | cons d cs =>
      have rest := ih fun both => apart ⟨(endsInNumeral_append_iff (by simp) [c]).mpr both.1, both.2⟩
      obtain ⟨run, others, shape⟩ := lexemes_cons_shape d cs
      rw [List.cons_append, lexemes.eq_2, rest, lexemes.eq_2 c, shape]
      simp only [List.cons_append]
      split <;> rfl

theorem lexemes_run {run : List Char} (isRun : IsRun run) : lexemes run = [run] := by
  induction run with
  | nil => exact absurd rfl isRun.1
  | cons c cs ih =>
    cases cs with
    | nil => rfl
    | cons d cs =>
      have rest := ih ⟨by simp, fun e member => isRun.2 e (List.mem_cons_of_mem c member)⟩
      have first := isRun.2 c (by simp)
      have second := isRun.2 d (by simp)
      rw [lexemes, rest]
      simp [first, second]

/-- One character that is no numeral, or as many numerals as stand together. -/
inductive Stands (before : List Char) : List Char → List Char → Prop where
  | single {c : Char} {after : List Char} (other : isNumeral c = false) : Stands before [c] after
  | run {run after : List Char} (isRun : IsRun run) (begins : ¬ EndsInNumeral before)
      (ends : ¬ BeginsWithNumeral after) : Stands before run after

theorem Stands.apart {before lexeme after : List Char} (stands : Stands before lexeme after) :
    Apart before (lexeme ++ after) ∧ Apart lexeme after := by
  cases stands with
  | @single c _ other =>
    refine ⟨fun both => not_beginsWithNumeral_cons other _ both.2, ?_⟩
    rintro ⟨⟨d, last, numeral⟩, -⟩
    obtain rfl : c = d := by simpa using last
    rw [other] at numeral
    cases numeral
  | run isRun begins ends => exact ⟨fun both => begins both.1, fun both => ends both.2⟩

theorem Stands.lexemes_eq {before lexeme after : List Char} (stands : Stands before lexeme after) :
    lexemes (before ++ (lexeme ++ after)) = lexemes before ++ lexeme :: lexemes after := by
  obtain ⟨front, back⟩ := stands.apart
  rw [lexemes_append front, lexemes_append back]
  cases stands with
  | single other => rfl
  | run isRun => rw [lexemes_run isRun]; rfl

/-- Texts lexeme by lexeme. -/
theorem lexeme_induction {motive : List Char → Prop} (nil : motive [])
    (cons : ∀ lexeme rest, Stands [] lexeme rest → motive rest → motive (lexeme ++ rest))
    (cs : List Char) : motive cs := by
  induction length : cs.length using Nat.strongRecOn generalizing cs with
  | _ n ih =>
    cases cs with
    | nil => exact nil
    | cons c cs =>
      rw [List.length_cons] at length
      by_cases numeral : isNumeral c = true
      · have whole : (c :: cs).takeWhile isNumeral ++ (c :: cs).dropWhile isNumeral = c :: cs :=
          List.takeWhile_append_dropWhile
        have isRun : IsRun ((c :: cs).takeWhile isNumeral) :=
          ⟨by simp [numeral], List.all_eq_true.mp List.all_takeWhile⟩
        have ends : ¬ BeginsWithNumeral ((c :: cs).dropWhile isNumeral) := by
          rintro ⟨d, first, also⟩
          have stopped := List.head?_dropWhile_not isNumeral (c :: cs)
          rw [first] at stopped
          simp [also] at stopped
        have shorter : ((c :: cs).dropWhile isNumeral).length ≤ cs.length := by
          rw [List.dropWhile_cons_of_pos numeral]
          exact (List.dropWhile_sublist isNumeral).length_le
        rw [← whole]
        exact cons _ _ (.run isRun nofun ends) (ih _ (by omega) _ rfl)
      · exact cons [c] cs (.single (by simpa using numeral)) (ih _ (by omega) cs rfl)

theorem stands_of_lexemes {cs : List Char} {earlier later : List (List Char)} {lexeme : List Char}
    (cut : lexemes cs = earlier ++ lexeme :: later) : Stands earlier.flatten lexeme later.flatten := by
  induction cs using lexeme_induction generalizing earlier with
  | nil => simp [lexemes] at cut
  | cons first rest stands ih =>
    have shape : lexemes (first ++ rest) = first :: lexemes rest := stands.lexemes_eq
    rw [shape] at cut
    cases earlier with
    | nil =>
      obtain ⟨rfl, rfl⟩ := List.cons.inj cut
      rwa [flatten_lexemes]
    | cons other earlier =>
      obtain ⟨rfl, further⟩ := List.cons.inj cut
      have whole : earlier.flatten ++ (lexeme ++ later.flatten) = rest := by
        rw [← flatten_lexemes rest, further]
        simp
      cases ih further with
      | single other => exact .single other
      | run isRun begins ends =>
        refine .run isRun (fun numeral => ?_) ends
        by_cases empty : earlier.flatten = []
        · rw [List.flatten_cons, empty, List.append_nil] at numeral
          rw [empty, List.nil_append] at whole
          exact stands.apart.2 ⟨numeral, whole ▸ isRun.beginsWithNumeral _⟩
        · exact begins ((endsInNumeral_append_iff empty _).mp numeral)

/-! ## Single characters -/

/-- The tokens of one character. -/
inductive IsSymbol : Char → Token → Prop where
  | plus : IsSymbol '+' .plus
  | minus : IsSymbol '-' .minus
  | times : IsSymbol '*' .times
  | divide : IsSymbol '/' .divide
  | opening : IsSymbol '(' .opening
  | closing : IsSymbol ')' .closing

theorem isSymbol_of_symbol? {c : Char} {token : Token} (meant : symbol? c = some token) :
    IsSymbol c token := by
  unfold symbol? at meant
  split at meant <;> cases meant <;> constructor

theorem symbol?_eq_none_iff (c : Char) : symbol? c = none ↔ c ∉ ['+', '-', '*', '/', '(', ')'] := by
  unfold symbol?
  split <;> simp_all

theorem ofLexeme_symbol {c : Char} {token : Token} (symbol : IsSymbol c token) :
    isNumeral c = false ∧ ofLexeme [c] = .ok (some token) := by
  cases symbol <;> exact ⟨rfl, rfl⟩

theorem ofLexeme_blank {c : Char} (blank : c = ' ' ∨ c = '\t') : ofLexeme [c] = .ok none := by
  rcases blank with rfl | rfl <;> rfl

theorem isNumeral_blank {c : Char} (blank : c = ' ' ∨ c = '\t') : isNumeral c = false := by
  rcases blank with rfl | rfl <;> rfl

/-! ## Faults -/

/-- A character that no expression has. -/
def IsForeign (c : Char) : Prop :=
  isNumeral c = false ∧ c ∉ ['+', '-', '*', '/', '(', ')', ' ', '\t']

/-- A run that writes no number. -/
def IsMalformed (run : List Char) : Prop := (∀ c ∈ run, c.isDigit = false) ∨ 2 ≤ run.count '.'

/-- Behind `before` there stands what makes no token. -/
inductive Fault (cs before : List Char) : Failure → Prop where
  | char {c : Char} {after : List Char} (place : cs = before ++ c :: after) (foreign : IsForeign c) :
      Fault cs before (.unexpectedChar c)
  | run {run after : List Char} (place : cs = before ++ (run ++ after)) (isRun : IsRun run)
      (begins : ¬ EndsInNumeral before) (ends : ¬ BeginsWithNumeral after)
      (malformed : IsMalformed run) : Fault cs before (.badNumber (String.ofList run))

/-- No fault stands before this one. -/
def LeftmostFault (cs : List Char) (failure : Failure) : Prop :=
  ∃ before, Fault cs before failure ∧
    ∀ earlier other, Fault cs earlier other → before.length ≤ earlier.length

theorem isNumber_eq_false_iff (run : List Char) : isNumber run = false ↔ IsMalformed run := by
  simp only [isNumber, IsMalformed, Bool.and_eq_false_iff, List.any_eq_false, Bool.not_eq_true,
    decide_eq_false_iff_not, Nat.not_le, Nat.lt_iff_add_one_le, Nat.reduceAdd]

theorem ofLexeme_run {run : List Char} (isRun : IsRun run) :
    ofLexeme run =
      if isNumber run then .ok (some (.number (numberValue run)))
      else .error (.badNumber (String.ofList run)) := by
  cases run with
  | nil => exact absurd rfl isRun.1
  | cons c cs => rw [ofLexeme, if_pos (isRun.2 c List.mem_cons_self)]

theorem ofLexeme_foreign {c : Char} (foreign : IsForeign c) :
    ofLexeme [c] = .error (.unexpectedChar c) := by
  obtain ⟨other, outside⟩ := foreign
  have noSymbol : symbol? c = none := (symbol?_eq_none_iff c).mpr fun inside => outside (by simp_all)
  have noBlank : ¬ (c = ' ' ∨ c = '\t') := fun blank => outside (by simp [blank])
  simp [ofLexeme, other, noBlank, noSymbol]

/-- A character by itself is a blank, a token or foreign. -/
theorem single_cases {c : Char} (other : isNumeral c = false) :
    (c = ' ' ∨ c = '\t') ∨ (∃ token, IsSymbol c token) ∨ IsForeign c := by
  by_cases blank : c = ' ' ∨ c = '\t'
  · exact .inl blank
  cases meant : symbol? c with
  | some token => exact .inr (.inl ⟨token, isSymbol_of_symbol? meant⟩)
  | none =>
    have outside := (symbol?_eq_none_iff c).mp meant
    exact .inr (.inr ⟨other, by simp_all⟩)

theorem ofLexeme_single_error {c : Char} (other : isNumeral c = false) {failure : Failure}
    (failed : ofLexeme [c] = .error failure) : IsForeign c ∧ failure = .unexpectedChar c := by
  rcases single_cases other with blank | ⟨token, meant⟩ | foreign
  · rw [ofLexeme_blank blank] at failed
    cases failed
  · rw [(ofLexeme_symbol meant).2] at failed
    cases failed
  · rw [ofLexeme_foreign foreign] at failed
    cases failed
    exact ⟨foreign, rfl⟩

/-- The faults of a text are its lexemes that make no token. -/
theorem fault_iff (cs before : List Char) (failure : Failure) :
    Fault cs before failure ↔
      ∃ earlier lexeme later, lexemes cs = earlier ++ lexeme :: later ∧
        earlier.flatten = before ∧ ofLexeme lexeme = .error failure := by
  constructor
  · rintro (⟨rfl, foreign⟩ | ⟨rfl, isRun, begins, ends, malformed⟩)
    · exact ⟨_, _, _, (Stands.single foreign.1).lexemes_eq, flatten_lexemes before,
        ofLexeme_foreign foreign⟩
    · refine ⟨_, _, _, (Stands.run isRun begins ends).lexemes_eq, flatten_lexemes before, ?_⟩
      rw [ofLexeme_run isRun, (isNumber_eq_false_iff _).mpr malformed]
      rfl
  · rintro ⟨earlier, lexeme, later, cut, rfl, failed⟩
    have whole : cs = earlier.flatten ++ (lexeme ++ later.flatten) := by
      rw [← flatten_lexemes cs, cut]
      simp
    cases stands_of_lexemes cut with
    | single other =>
      obtain ⟨foreign, rfl⟩ := ofLexeme_single_error other failed
      exact .char whole foreign
    | run isRun begins ends =>
      rw [ofLexeme_run isRun] at failed
      split at failed
      · cases failed
      · next noNumber =>
        cases failed
        exact .run whole isRun begins ends ((isNumber_eq_false_iff _).mp (by simpa using noNumber))

/-- Lexemes fail with the first of them that makes no token. -/
theorem ofLexemes_eq_error_iff (list : List (List Char)) (failure : Failure) :
    ofLexemes list = .error failure ↔
      ∃ earlier lexeme later, list = earlier ++ lexeme :: later ∧ ofLexeme lexeme = .error failure ∧
        ∀ sound ∈ earlier, ∃ token, ofLexeme sound = .ok token := by
  induction list with
  | nil => simp [ofLexemes]
  | cons first rest ih =>
    rw [ofLexemes]
    cases made : ofLexeme first with
    | error raised =>
      constructor
      · rintro ⟨⟩
        exact ⟨[], first, rest, rfl, made, by simp⟩
      · rintro ⟨earlier, lexeme, later, cut, failed, sound⟩
        cases earlier with
        | nil =>
          cases cut
          cases made.symm.trans failed
          rfl
        | cons other earlier =>
          cases cut
          obtain ⟨token, also⟩ := sound first List.mem_cons_self
          rw [made] at also
          cases also
    | ok token =>
      have further : (ofLexemes rest).map (token.toList ++ ·) = .error failure ↔
          ofLexemes rest = .error failure := by
        cases ofLexemes rest <;> simp [Except.map]
      simp only [further, ih]
      constructor
      · rintro ⟨earlier, lexeme, later, rfl, failed, sound⟩
        exact ⟨first :: earlier, lexeme, later, rfl, failed, List.forall_mem_cons.mpr ⟨⟨token, made⟩, sound⟩⟩
      · rintro ⟨earlier, lexeme, later, cut, failed, sound⟩
        cases earlier with
        | nil =>
          cases cut
          rw [made] at failed
          cases failed
        | cons other earlier =>
          cases cut
          exact ⟨earlier, lexeme, later, rfl, failed, (List.forall_mem_cons.mp sound).2⟩

/-- Reading fails with the leftmost fault. -/
theorem ofLexemes_lexemes_eq_error_iff (cs : List Char) (failure : Failure) :
    ofLexemes (lexemes cs) = .error failure ↔ LeftmostFault cs failure := by
  rw [ofLexemes_eq_error_iff]
  constructor
  · rintro ⟨earlier, lexeme, later, cut, failed, sound⟩
    refine ⟨earlier.flatten, (fault_iff ..).mpr ⟨earlier, lexeme, later, cut, rfl, failed⟩, ?_⟩
    intro place other fault
    obtain ⟨before, wrong, after, again, rfl, fails⟩ := (fault_iff ..).mp fault
    rcases List.append_eq_append_iff.mp (cut.symm.trans again) with ⟨more, rfl, -⟩ | ⟨more, rfl, rest⟩
    · simp
    · cases more with
      | nil => simp
      | cons skipped more =>
        cases rest
        obtain ⟨token, made⟩ := sound wrong (by simp)
        rw [fails] at made
        cases made
  · rintro ⟨before, fault, leftmost⟩
    obtain ⟨earlier, lexeme, later, cut, rfl, failed⟩ := (fault_iff ..).mp fault
    refine ⟨earlier, lexeme, later, cut, failed, fun sound member => ?_⟩
    cases made : ofLexeme sound with
    | ok token => exact ⟨token, rfl⟩
    | error raised =>
      obtain ⟨front, back, rfl⟩ := List.append_of_mem member
      have sooner := leftmost front.flatten raised
        ((fault_iff ..).mpr ⟨front, sound, back ++ lexeme :: later, by simp [cut], rfl, made⟩)
      have filled : sound ≠ [] := by
        rintro rfl
        exact nil_not_mem_lexemes cs (by simp [cut])
      have width := List.length_pos_iff.mpr filled
      simp only [List.flatten_append, List.flatten_cons, List.length_append] at sooner
      omega

/-! ## Tokens -/

/-- Digits write a decimal, with a point before, between or behind them, or without one. -/
inductive WritesNumber : List Char → Float → Prop where
  | whole {digits : List Char} (filled : digits ≠ []) (plain : ∀ c ∈ digits, c.isDigit) :
    WritesNumber digits (Float.ofScientific (Nat.ofDigitChars 10 digits 0) true 0)
  | decimal {digits places : List Char} (filled : digits ++ places ≠ [])
      (plain : ∀ c ∈ digits ++ places, c.isDigit) :
    WritesNumber (digits ++ '.' :: places)
      (Float.ofScientific (Nat.ofDigitChars 10 (digits ++ places) 0) true places.length)

/-- The characters spell the tokens. -/
inductive Spells : List Char → List Token → Prop where
  | done : Spells [] []
  | blank {c : Char} {cs : List Char} {tokens : List Token} (blank : c = ' ' ∨ c = '\t')
      (rest : Spells cs tokens) : Spells (c :: cs) tokens
  | symbol {c : Char} {token : Token} {cs : List Char} {tokens : List Token}
      (meant : IsSymbol c token) (rest : Spells cs tokens) : Spells (c :: cs) (token :: tokens)
  | number {run cs : List Char} {value : Float} {tokens : List Token} (writes : WritesNumber run value)
      (ends : ¬ BeginsWithNumeral cs) (rest : Spells cs tokens) :
      Spells (run ++ cs) (.number value :: tokens)

section Digits

variable {cs : List Char} (plain : ∀ c ∈ cs, c.isDigit)

include plain

theorem point_not_mem_of_isDigit : '.' ∉ cs := by
  intro point
  have digit := plain '.' point
  cases digit

theorem not_isMalformed_of_isDigit (filled : cs ≠ []) {run : List Char} (sub : cs ⊆ run)
    (single : run.count '.' ≤ 1) : ¬ IsMalformed run := by
  obtain ⟨c, inside⟩ := List.exists_mem_of_ne_nil cs filled
  rintro (digitless | pointed)
  · exact absurd (plain c inside) (by simp [digitless c (sub inside)])
  · omega

theorem dropWhile_of_isDigit (rest : List Char) :
    (cs ++ rest).dropWhile (· ≠ '.') = rest.dropWhile (· ≠ '.') := by
  refine List.dropWhile_append_of_pos fun c member => decide_eq_true ?_
  rintro rfl
  exact point_not_mem_of_isDigit plain member

end Digits

theorem numberValue_digits {digits : List Char} (plain : ∀ c ∈ digits, c.isDigit) :
    numberValue digits = Float.ofScientific (Nat.ofDigitChars 10 digits 0) true 0 := by
  have dropped := dropWhile_of_isDigit plain []
  rw [List.append_nil] at dropped
  rw [numberValue, dropped, List.filter_eq_self.mpr plain]
  rfl

theorem numberValue_decimal {digits places : List Char} (plain : ∀ c ∈ digits ++ places, c.isDigit) :
    numberValue (digits ++ '.' :: places) =
      Float.ofScientific (Nat.ofDigitChars 10 (digits ++ places) 0) true places.length := by
  have point : Char.isDigit '.' = false := rfl
  have kept : (digits ++ '.' :: places).filter Char.isDigit = digits ++ places := by
    rw [List.filter_append, List.filter_cons_of_neg (by simp [point]), ← List.filter_append,
      List.filter_eq_self.mpr plain]
  have before : ∀ c ∈ digits, c.isDigit := fun c member => plain c (List.mem_append_left places member)
  rw [numberValue, dropWhile_of_isDigit before, List.dropWhile_cons_of_neg (by simp), kept]
  rfl

/-- A run is all digits, or a single point among digits, unless it is malformed. -/
theorem digits_or_decimal {run : List Char} (isRun : IsRun run) (sound : ¬ IsMalformed run) :
    (∀ c ∈ run, c.isDigit) ∨ ∃ digits places, run = digits ++ '.' :: places ∧
      digits ++ places ≠ [] ∧ ∀ c ∈ digits ++ places, c.isDigit := by
  have digit {c : Char} (member : c ∈ run) (other : c ≠ '.') : c.isDigit := by
    simpa [isNumeral, other] using isRun.2 c member
  obtain ⟨hasDigit, single⟩ := not_or.mp sound
  by_cases point : '.' ∈ run
  · obtain ⟨digits, places, rfl⟩ := List.append_of_mem point
    have pointless : '.' ∉ digits ++ places := by
      rw [← List.count_eq_zero]
      simp only [List.count_append, List.count_cons_self] at single ⊢
      omega
    refine .inr ⟨digits, places, rfl, fun empty => hasDigit ?_, fun c member => digit ?_ ?_⟩
    · rw [List.append_eq_nil_iff] at empty
      simp [empty]
    · exact List.mem_append.mpr ((List.mem_append.mp member).imp_right (List.mem_cons_of_mem '.'))
    · rintro rfl
      exact pointless member
  · refine .inl fun c member => digit member ?_
    rintro rfl
    exact point member

/-- A run writes a number unless it is malformed, and just the one that it is read as. -/
theorem writesNumber_iff {run : List Char} {value : Float} :
    WritesNumber run value ↔ IsRun run ∧ ¬ IsMalformed run ∧ value = numberValue run := by
  constructor
  · rintro (⟨filled, plain⟩ | @⟨digits, places, filled, plain⟩)
    · have pointless : run.count '.' = 0 := List.count_eq_zero.mpr (point_not_mem_of_isDigit plain)
      refine ⟨⟨filled, fun c member => ?_⟩, ?_, (numberValue_digits plain).symm⟩
      · simp [isNumeral, plain c member]
      · exact not_isMalformed_of_isDigit plain filled (List.Subset.refl run) (by omega)
    · have pointless : (digits ++ places).count '.' = 0 :=
        List.count_eq_zero.mpr (point_not_mem_of_isDigit plain)
      refine ⟨⟨by simp, fun c member => ?_⟩, ?_, (numberValue_decimal plain).symm⟩
      · by_cases point : c = '.'
        · simp [isNumeral, point]
        · have inside : c ∈ digits ++ places := by simpa [point] using member
          simp [isNumeral, plain c inside]
      · refine not_isMalformed_of_isDigit plain filled (by simp) ?_
        simp only [List.count_append, List.count_cons_self] at pointless ⊢
        omega
  · rintro ⟨isRun, sound, rfl⟩
    rcases digits_or_decimal isRun sound with plain | ⟨digits, places, rfl, filled, plain⟩
    · rw [numberValue_digits plain]
      exact .whole isRun.1 plain
    · rw [numberValue_decimal plain]
      exact .decimal filled plain

/-- The lexeme at the front and the others. -/
theorem ofLexemes_stands {lexeme rest : List Char} (stands : Stands [] lexeme rest)
    {token : Option Token} (made : ofLexeme lexeme = .ok token) (tokens : List Token) :
    ofLexemes (lexemes (lexeme ++ rest)) = .ok tokens ↔
      ∃ others, ofLexemes (lexemes rest) = .ok others ∧ tokens = token.toList ++ others := by
  have shape : lexemes (lexeme ++ rest) = lexeme :: lexemes rest := stands.lexemes_eq
  rw [shape, ofLexemes, made]
  cases ofLexemes (lexemes rest) with
  | error failure => simp [Except.map]
  | ok others => simp [Except.map, eq_comm]

theorem ofLexemes_lexemes_eq_ok_iff (cs : List Char) (tokens : List Token) :
    ofLexemes (lexemes cs) = .ok tokens ↔ Spells cs tokens := by
  constructor
  · intro read
    induction cs using lexeme_induction generalizing tokens with
    | nil => cases read; exact .done
    | cons lexeme rest stands ih =>
      cases made : ofLexeme lexeme with
      | error failure =>
        have shape : lexemes (lexeme ++ rest) = lexeme :: lexemes rest := stands.lexemes_eq
        rw [shape, ofLexemes, made] at read
        cases read
      | ok token =>
        obtain ⟨others, also, rfl⟩ := (ofLexemes_stands stands made tokens).mp read
        have spelled := ih others also
        cases stands with
        | single other =>
          rcases single_cases other with blank | ⟨meaning, meant⟩ | foreign
          · rw [ofLexeme_blank blank] at made
            cases made
            exact .blank blank spelled
          · rw [(ofLexeme_symbol meant).2] at made
            cases made
            exact .symbol meant spelled
          · rw [ofLexeme_foreign foreign] at made
            cases made
        | run isRun begins ends =>
          rw [ofLexeme_run isRun] at made
          split at made
          · next isNumber =>
            cases made
            have sound : ¬ IsMalformed lexeme := by simp [← isNumber_eq_false_iff, isNumber]
            exact .number (writesNumber_iff.mpr ⟨isRun, sound, rfl⟩) ends spelled
          · cases made
  · intro spelled
    induction spelled with
    | done => rfl
    | blank blank _ ih =>
      exact (ofLexemes_stands (.single (isNumeral_blank blank)) (ofLexeme_blank blank) _).mpr ⟨_, ih, rfl⟩
    | symbol meant _ ih =>
      obtain ⟨other, made⟩ := ofLexeme_symbol meant
      exact (ofLexemes_stands (.single other) made _).mpr ⟨_, ih, rfl⟩
    | number writes ends _ ih =>
      obtain ⟨isRun, sound, rfl⟩ := writesNumber_iff.mp writes
      have made := ofLexeme_run isRun
      rw [if_pos (by simpa [← isNumber_eq_false_iff] using sound)] at made
      exact (ofLexemes_stands (.run isRun nofun ends) made _).mpr ⟨_, ih, rfl⟩

/-! ## Blanks -/

/-- A blank more, at a place where it cuts no run and joins none by its going. -/
inductive AddsBlank : List Char → List Char → Prop where
  | blank {before after : List Char} {c : Char} (blank : c = ' ' ∨ c = '\t')
      (apart : Apart before after) : AddsBlank (before ++ after) (before ++ c :: after)

/-- Blanks are added and taken away, each where no run is cut or joined. -/
def Respaced : List Char → List Char → Prop := Relation.EqvGen AddsBlank

theorem ofLexemes_append (first second : List (List Char)) :
    ofLexemes (first ++ second) =
      (ofLexemes first).bind fun front => (ofLexemes second).map (front ++ ·) := by
  induction first with
  | nil => cases made : ofLexemes second <;> simp [ofLexemes, Except.bind, Except.map, made]
  | cons lexeme rest ih =>
    rw [List.cons_append, ofLexemes, ofLexemes, ih]
    cases ofLexeme lexeme with
    | error failure => rfl
    | ok token =>
      cases ofLexemes rest with
      | error failure => rfl
      | ok front => cases ofLexemes second <;> simp [Except.bind, Except.map]

theorem AddsBlank.ofLexemes_eq {cs more : List Char} (adds : AddsBlank cs more) :
    ofLexemes (lexemes more) = ofLexemes (lexemes cs) := by
  cases adds with
  | @blank before after c blank apart =>
    have stands : Stands before [c] after := .single (isNumeral_blank blank)
    have cut := stands.lexemes_eq
    have skipped : ofLexemes ([c] :: lexemes after) = ofLexemes (lexemes after) := by
      rw [ofLexemes, ofLexeme_blank blank]
      cases ofLexemes (lexemes after) <;> rfl
    rw [List.singleton_append] at cut
    rw [cut, lexemes_append apart, ofLexemes_append, ofLexemes_append, skipped]

theorem Respaced.ofLexemes_eq {cs other : List Char} (respaced : Respaced cs other) :
    ofLexemes (lexemes other) = ofLexemes (lexemes cs) := by
  induction respaced with
  | rel _ _ adds => exact adds.ofLexemes_eq
  | refl _ => rfl
  | symm _ _ _ ih => exact ih.symm
  | trans _ _ _ _ _ first second => exact second.trans first

/-! ## Expressions -/

/-- A failure of the reading of tokens. -/
def Failure.IsLexical : Failure → Prop
  | .unexpectedChar _ => True
  | .badNumber _ => True
  | _ => False

theorem isLexical_of_fault {cs before : List Char} {failure : Failure}
    (fault : Fault cs before failure) : failure.IsLexical := by
  cases fault <;> trivial

/-- Tokens fail otherwise. -/
theorem not_isLexical_of_value {tokens : List Token} {failure : Failure}
    (failed : value tokens = .error failure) : ¬ failure.IsLexical := by
  rcases value_eq_error failed with ⟨_, token, _, reading, _, _, fits, refused⟩ | ⟨reading, _, _, unfinished⟩
  · rcases step_eq_error fits refused with ⟨_, rfl⟩ | ⟨_, _, rfl | rfl⟩ <;> exact id
  · rcases finish_eq_error unfinished with ⟨_, rfl⟩ | ⟨_, _, rfl, _⟩ <;> exact id

/-- Where there is a fault there is a leftmost one. -/
theorem exists_leftmostFault {cs before : List Char} {failure : Failure}
    (fault : Fault cs before failure) : ∃ first, LeftmostFault cs first := by
  by_cases leftmost : ∀ earlier other, Fault cs earlier other → before.length ≤ earlier.length
  · exact ⟨failure, before, fault, leftmost⟩
  · simp only [Classical.not_forall, Nat.not_le] at leftmost
    obtain ⟨earlier, other, also, sooner⟩ := leftmost
    exact exists_leftmostFault also
termination_by before.length

theorem evaluate_of_tokens {expression : String} {list : List Token}
    (read : tokens expression = .ok list) : evaluate expression = value list := by
  rw [evaluate, read]

theorem evaluate_eq_error_iff (expression : String) {failure : Failure} (lexical : failure.IsLexical) :
    evaluate expression = .error failure ↔ LeftmostFault expression.toList failure := by
  rw [← ofLexemes_lexemes_eq_error_iff]
  change _ ↔ tokens expression = .error failure
  cases read : tokens expression with
  | error raised => rw [evaluate, read]; simp
  | ok list =>
    rw [evaluate_of_tokens read]
    constructor
    · intro failed
      exact absurd lexical (not_isLexical_of_value failed)
    · intro failed
      cases failed

/-- Reading an expression is exact. It fails just if the text has a fault, and names the leftmost one,
    whatever else is wrong; without a fault the evaluation is that of the tokens that the text spells,
    and blanks that cut and join no run make no difference. -/
theorem reads_exactly (expression : String) :
    ((∃ failure, failure.IsLexical ∧ evaluate expression = .error failure) ↔
        ∃ before failure, Fault expression.toList before failure) ∧
      (∀ failure, failure.IsLexical →
        (evaluate expression = .error failure ↔ LeftmostFault expression.toList failure)) ∧
      ((¬ ∃ before failure, Fault expression.toList before failure) →
        ∃ list, tokens expression = .ok list ∧ Spells expression.toList list ∧
          evaluate expression = value list) ∧
      (∀ list, tokens expression = .ok list ↔ Spells expression.toList list) ∧
      ∀ other : String, Respaced expression.toList other.toList →
        tokens other = tokens expression ∧ evaluate other = evaluate expression := by
  refine ⟨⟨?_, ?_⟩, ?_, ?_, ?_, ?_⟩
  · rintro ⟨failure, lexical, failed⟩
    obtain ⟨before, fault, -⟩ := (evaluate_eq_error_iff expression lexical).mp failed
    exact ⟨before, failure, fault⟩
  · rintro ⟨before, failure, fault⟩
    obtain ⟨first, place, also, leftmost⟩ := exists_leftmostFault fault
    have lexical := isLexical_of_fault also
    exact ⟨first, lexical, (evaluate_eq_error_iff expression lexical).mpr ⟨place, also, leftmost⟩⟩
  · intro failure lexical
    exact evaluate_eq_error_iff expression lexical
  · intro sound
    cases read : tokens expression with
    | error failure =>
      obtain ⟨before, fault, -⟩ := (ofLexemes_lexemes_eq_error_iff expression.toList failure).mp read
      exact absurd ⟨before, failure, fault⟩ sound
    | ok list =>
      exact ⟨list, rfl, (ofLexemes_lexemes_eq_ok_iff expression.toList list).mp read, evaluate_of_tokens read⟩
  · exact ofLexemes_lexemes_eq_ok_iff expression.toList
  · intro other respaced
    have same : tokens other = tokens expression := respaced.ofLexemes_eq
    exact ⟨same, by rw [evaluate, evaluate, same]⟩

end Calc
end PathShell
