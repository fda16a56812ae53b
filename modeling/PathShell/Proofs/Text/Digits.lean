import PathShell.Text.Blank
import PathShell.Text.Digits

/-!
# Reading digits back

A run of decimal digits is read back as the number it writes, where nothing after it can be taken for
one of its digits.
-/

namespace PathShell
namespace Digits

/-- No digit stands at the front. -/
def NoDigitFirst (rest : List Char) : Prop := ∀ c ∈ rest.head?, c.isDigit = false

theorem takeWhile_run {run rest : List Char} (digits : ∀ c ∈ run, c.isDigit = true)
    (apart : NoDigitFirst rest) : (run ++ rest).takeWhile Char.isDigit = run := by
  rw [List.takeWhile_append_of_pos digits]
  cases rest with
  | nil => simp
  | cons c rest => simp [apart c rfl]

/-- As many digits as may be read are read, and so are fewer where no other digit follows. -/
theorem read?_run {most : Nat} {run rest : List Char} (digits : ∀ c ∈ run, c.isDigit = true)
    (filled : run ≠ []) (fits : run.length ≤ most) (ends : run.length = most ∨ NoDigitFirst rest) :
    read? most (run ++ rest) = some (Nat.ofDigitChars 10 run 0, rest) := by
  have taken : ((run ++ rest).take most).takeWhile Char.isDigit = run := by
    rw [List.take_append, List.take_of_length_le fits]
    refine takeWhile_run digits ?_
    rcases ends with whole | apart
    · simp [NoDigitFirst, whole]
    · cases rest with
      | nil => simp [NoDigitFirst]
      | cons c rest =>
        intro d member
        cases room : most - run.length with
        | zero => simp [room] at member
        | succ n =>
          simp only [room, List.take_succ_cons, List.head?_cons, Option.mem_some_iff] at member
          exact member ▸ apart c rfl
  simp [read?, taken, filled]

/-! ## Numbers of a width -/

theorem isDigit_of_mem_padded {width n : Nat} {c : Char} (member : c ∈ padded width n) :
    c.isDigit = true := by
  rcases List.mem_append.mp member with zero | digit
  · rw [List.eq_of_mem_replicate zero]
    rfl
  · exact Nat.isDigit_of_mem_toDigits (by decide) (by decide) digit

theorem padded_ne_nil (width n : Nat) : padded width n ≠ [] := by
  simp [padded, Nat.toDigits_ne_nil]

@[simp] theorem ofDigitChars_padded (width n : Nat) : Nat.ofDigitChars 10 (padded width n) 0 = n := by
  rw [padded, Nat.ofDigitChars_append, Nat.ofDigitChars_replicate_zero, Nat.mul_zero,
    Nat.ofDigitChars_ten_toDigits]

theorem length_padded {width n : Nat} (positive : 0 < width) (small : n < Nat.pow 10 width) :
    (padded width n).length = width := by
  have short := (Nat.length_toDigits_le_iff (b := 10) (by decide) positive).mpr small
  simp only [padded, List.length_append, List.length_replicate]
  omega

/-- A number of exactly the digits that may be read, whatever follows it. -/
theorem read?_padded {width n : Nat} (positive : 0 < width) (small : n < Nat.pow 10 width)
    (rest : List Char) : read? width (padded width n ++ rest) = some (n, rest) := by
  have length := length_padded positive small
  rw [read?_run (fun _ => isDigit_of_mem_padded) (padded_ne_nil width n) (Nat.le_of_eq length) (.inl length),
    ofDigitChars_padded]

/-- A number of any length, where no digit follows it. -/
theorem read?_padded_all (width n : Nat) {rest : List Char} (apart : NoDigitFirst rest) :
    read? (padded width n ++ rest).length (padded width n ++ rest) = some (n, rest) := by
  rw [read?_run (fun _ => isDigit_of_mem_padded) (padded_ne_nil width n) (by simp) (.inr apart),
    ofDigitChars_padded]

end Digits

namespace Text

theorem isBlank_of_isDigit {c : Char} (digit : c.isDigit = true) : isBlank c = false := by
  have none : (blanks.all fun b => !b.isDigit) = true := by decide
  cases blank : isBlank c with
  | false => rfl
  | true =>
    rw [isBlank, List.contains_iff_mem] at blank
    have other := List.all_eq_true.mp none c blank
    rw [digit] at other
    contradiction

theorem skipBlanks_cons {c : Char} (solid : isBlank c = false) (rest : List Char) :
    skipBlanks (c :: rest) = c :: rest := by
  simp [skipBlanks, solid]

theorem skipBlanks_padded (width n : Nat) (rest : List Char) :
    skipBlanks (Digits.padded width n ++ rest) = Digits.padded width n ++ rest := by
  cases shape : Digits.padded width n with
  | nil => exact absurd shape (Digits.padded_ne_nil width n)
  | cons c run =>
    have digit : c.isDigit = true :=
      Digits.isDigit_of_mem_padded (shape ▸ List.mem_cons_self : c ∈ Digits.padded width n)
    exact skipBlanks_cons (isBlank_of_isDigit digit) _

end Text
end PathShell
