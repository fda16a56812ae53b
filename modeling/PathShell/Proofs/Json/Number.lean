import PathShell.Json.Number

/-!
# Natural numbers as JSON numbers

The decimal digits of a number of 64 bits are a JSON number: they begin with no needless zero, they
fit the significand, and they are far from too large.
-/

namespace PathShell
namespace Json

/-! ## The significand -/

theorem le_ofDigitChars (cs : List Char) (start : Nat) : start ≤ Nat.ofDigitChars 10 cs start := by
  induction cs generalizing start with
  | nil => simp
  | cons c cs ih =>
    rw [Nat.ofDigitChars_cons]
    have grown := ih (10 * start + (c.toNat - '0'.toNat))
    omega

/-- Digits whose number fits the significand all join it. -/
theorem takeDigits_of_fits {start : Nat} {cs : List Char}
    (fits : Nat.ofDigitChars 10 cs start < Nat.pow 2 64) :
    takeDigits start cs = (Nat.ofDigitChars 10 cs start, []) := by
  induction cs generalizing start with
  | nil => simp [takeDigits]
  | cons c cs ih =>
    rw [Nat.ofDigitChars_cons] at fits ⊢
    have next := Nat.lt_of_le_of_lt (le_ofDigitChars cs _) fits
    rw [takeDigits, if_pos next, ih fits]

/-! ## The magnitude -/

theorem roundTo53_le (n : Nat) : roundTo53 n ≤ 2 * n + 1 := by
  have small : n / Nat.pow 2 (Nat.log2 n - 52) * Nat.pow 2 (Nat.log2 n - 52) ≤ n :=
    Nat.div_mul_le_self _ _
  have unit : Nat.pow 2 (Nat.log2 n - 52) ≤ n + 1 := by
    by_cases zero : n = 0
    · simp [zero]
    · have lower : Nat.pow 2 (Nat.log2 n - 52) ≤ 2 ^ Nat.log2 n :=
        Nat.pow_le_pow_right (by decide) (Nat.sub_le _ _)
      have upper := Nat.log2_self_le zero
      omega
  simp only [roundTo53]
  split
  · omega
  · rw [Nat.add_mul, Nat.one_mul]
    omega

theorem tooLarge_of_small {n : Nat} (small : n < Nat.pow 2 64) : tooLarge n 0 = false := by
  have bound := roundTo53_le n
  have one : roundTo53 (Nat.pow 10 (0 : Int).toNat) = 1 := by decide
  have far : 2 * Nat.pow 2 64 < Nat.pow 2 1024 - Nat.pow 2 970 := by decide +kernel
  have below : ¬ Nat.pow 2 1024 - Nat.pow 2 970 ≤ roundTo53 n * 1 := by omega
  simp only [tooLarge, one, below]
  simp

/-! ## The written form -/

/-- The digits of a number begin with a zero only if it is zero. -/
theorem head?_toDigits {n : Nat} (positive : 0 < n) : (Nat.toDigits 10 n).head? ≠ some '0' := by
  induction n using Nat.strongRecOn with
  | _ n ih =>
    rw [Nat.toDigits_eq_if (by decide)]
    split
    · next single =>
      have digits : ∀ digit : Fin 10, 0 < digit.val → digit.val.digitChar ≠ '0' := by decide
      simpa using digits ⟨n, single⟩ positive
    · next several =>
      have front := ih (n / 10) (by omega) (by omega)
      cases shape : Nat.toDigits 10 (n / 10) with
      | nil => exact absurd shape Nat.toDigits_ne_nil
      | cons c cs =>
        rw [shape] at front
        simpa using front

theorem digits_of_all {run : List Char} (all : ∀ c ∈ run, c.isDigit = true) : digits run = (run, []) := by
  have taken : (run ++ []).takeWhile Char.isDigit = run ++ [].takeWhile Char.isDigit :=
    List.takeWhile_append_of_pos all
  have dropped : (run ++ []).dropWhile Char.isDigit = [].dropWhile Char.isDigit :=
    List.dropWhile_append_of_pos all
  rw [List.append_nil] at taken dropped
  rw [digits, taken, dropped, List.takeWhile_nil, List.dropWhile_nil, List.append_nil]

theorem wholePart?_toDigits (n : Nat) :
    wholePart? (Nat.toDigits 10 n) = some (Nat.toDigits 10 n, []) := by
  have all : ∀ c ∈ Nat.toDigits 10 n, c.isDigit = true := fun _ =>
    Nat.isDigit_of_mem_toDigits (by decide) (by decide)
  simp only [wholePart?, digits_of_all all]
  by_cases zero : n = 0
  · simp [zero]
  · have front := head?_toDigits (Nat.pos_of_ne_zero zero)
    cases shape : Nat.toDigits 10 n with
    | nil => exact absurd shape Nat.toDigits_ne_nil
    | cons c cs =>
      rw [shape] at front
      have first : c ≠ '0' := by simpa using front
      split
      · next same => cases same
      · next same => cases same; exact absurd rfl first
      · next same => cases same; exact absurd rfl first
      · next same => cases same; rfl

theorem numberParts?_toDigits (n : Nat) :
    numberParts? (Nat.toDigits 10 n) = some ⟨Nat.toDigits 10 n, [], false, []⟩ := by
  have unsigned : ∀ rest, Nat.toDigits 10 n ≠ '-' :: rest := by
    intro rest shape
    have digit := Nat.isDigit_of_mem_toDigits (b := 10) (n := n) (c := '-') (by decide) (by decide)
      (shape ▸ List.mem_cons_self)
    contradiction
  rw [numberParts?]
  · simp [wholePart?_toDigits, fractionPart?, exponentPart?]
  · exact unsigned

/-- The digits of a number of 64 bits are a number. -/
theorem isNumber_toDigits {n : Nat} (small : n < Nat.pow 2 64) :
    isNumber (Nat.toDigits 10 n) = true := by
  have whole : takeDigits 0 (Nat.toDigits 10 n) = (n, []) := by
    rw [takeDigits_of_fits (by simpa using small), Nat.ofDigitChars_ten_toDigits]
  have held : NumberParts.held ⟨Nat.toDigits 10 n, [], false, []⟩ = (n, 0) := by
    simp [NumberParts.held, whole, takeDigits]
  simp [isNumber, numberParts?_toDigits, held, tooLarge_of_small small]

end Json
end PathShell
