import PathShell.Instant.Text
import PathShell.Proofs.Text.Digits

/-!
# Reading instants back

The written form of an instant is read as that instant, to the nanosecond: years with a sign, leap
seconds and fractions of any of the written lengths included.
-/

namespace PathShell
namespace Instant

open Digits (padded)
open Text (skipBlanks)

/-! ## Numbers and separators -/

theorem field?_padded {n : Nat} (small : n < 100) (rest : List Char) :
    field? 2 (padded 2 n ++ rest) = some (n, rest) := by
  rw [field?, Text.skipBlanks_padded, Digits.read?_padded (by decide) (by simpa using small)]

theorem separator?_cons {c : Char} (solid : Text.isBlank c = false) (rest : List Char) :
    separator? c (c :: rest) = some rest := by
  simp [separator?, Text.skipBlanks_cons solid]

private theorem head_padded (width n : Nat) (rest : List Char) :
    ∃ c more, padded width n ++ rest = c :: more ∧ c.isDigit = true := by
  cases shape : padded width n with
  | nil => exact absurd shape (Digits.padded_ne_nil width n)
  | cons c run =>
    exact ⟨c, run ++ rest, rfl,
      Digits.isDigit_of_mem_padded (shape ▸ List.mem_cons_self : c ∈ padded width n)⟩

/-- A year of four digits has no sign, and every other one has. -/
theorem year?_yearText (year : Int) (rest : List Char) :
    year? (yearText year ++ '-' :: rest) = some (year, '-' :: rest) := by
  have apart : Digits.NoDigitFirst ('-' :: rest) := by
    intro c member
    cases member
    rfl
  by_cases nonnegative : 0 ≤ year
  · by_cases short : year ≤ 9999
    · have written : yearText year = padded 4 year.toNat := by simp [yearText, nonnegative, short]
      obtain ⟨c, more, shape, digit⟩ := head_padded 4 year.toNat ('-' :: rest)
      have plus : c ≠ '+' := by rintro rfl; contradiction
      have minus : c ≠ '-' := by rintro rfl; contradiction
      have fits : year.toNat < 10000 := by omega
      have read : Digits.read? 4 (padded 4 year.toNat ++ '-' :: rest) =
          some (year.toNat, '-' :: rest) := Digits.read?_padded (by decide) fits _
      rw [written, year?, Text.skipBlanks_padded]
      rw [shape] at read ⊢
      split
      · next same => cases same; contradiction
      · next same => cases same; contradiction
      · rw [read]
        simp [Int.toNat_of_nonneg nonnegative]
    · have written : yearText year = '+' :: padded 4 year.toNat := by
        simp [yearText, nonnegative, short]
      rw [written, List.cons_append, year?, Text.skipBlanks_cons (by decide)]
      simp only [Digits.read?_padded_all 4 year.toNat apart, Option.map_some,
        Int.toNat_of_nonneg nonnegative]
  · have written : yearText year = '-' :: padded 4 (-year).toNat := by simp [yearText, nonnegative]
    have back : (((-year).toNat : Nat) : Int) = -year := Int.toNat_of_nonneg (by omega)
    rw [written, List.cons_append, year?, Text.skipBlanks_cons (by decide)]
    simp only [Digits.read?_padded_all 4 (-year).toNat apart, Option.map_some, back, Int.neg_neg]

/-- Three, six or nine digits are as many thousandths, millionths or billionths. -/
theorem fraction?_fractionText {nano : Nat} (small : nano < 1000000000) (rest : List Char) :
    fraction? (fractionText nano ++ 'Z' :: rest) = some (nano, 'Z' :: rest) := by
  have apart : Digits.NoDigitFirst ('Z' :: rest) := by
    intro c member
    cases member
    rfl
  have group (width count : Nat) (positive : 0 < width) (short : width ≤ 9)
      (fits : count < Nat.pow 10 width) :
      fraction? ('.' :: padded width count ++ 'Z' :: rest) =
        some (count * Nat.pow 10 (9 - width), 'Z' :: rest) := by
    have length := Digits.length_padded positive fits
    have read : Digits.read? 9 (padded width count ++ 'Z' :: rest) = some (count, 'Z' :: rest) := by
      rw [Digits.read?_run (fun _ => Digits.isDigit_of_mem_padded) (Digits.padded_ne_nil width count)
        (by omega) (.inr apart), Digits.ofDigitChars_padded]
    rw [List.cons_append, fraction?, read]
    simp [length]
  by_cases zero : nano = 0
  · simp [fractionText, zero, fraction?]
  · by_cases milli : nano % 1000000 = 0
    · simp only [fractionText, zero, milli, if_true, if_false]
      have fits : nano / 1000000 < 1000 := by omega
      rw [group 3 _ (by decide) (by decide) fits]
      have back : nano / 1000000 * 1000000 = nano := by omega
      exact congrArg (fun n => some (n, 'Z' :: rest)) back
    · by_cases micro : nano % 1000 = 0
      · simp only [fractionText, zero, milli, micro, if_true, if_false]
        have fits : nano / 1000 < 1000000 := by omega
        rw [group 6 _ (by decide) (by decide) fits]
        have back : nano / 1000 * 1000 = nano := by omega
        exact congrArg (fun n => some (n, 'Z' :: rest)) back
      · simp only [fractionText, zero, milli, micro, if_false]
        rw [group 9 _ (by decide) (by decide) small]
        exact congrArg (fun n => some (n, 'Z' :: rest)) (Nat.mul_one nano)

/-! ## Dates and times -/

theorem date?_dateText {date : Date} (month : date.month < 100) (day : date.day < 100)
    (rest : List Char) : date? (dateText date ++ rest) = some (date, rest) := by
  simp only [dateText, List.append_assoc, List.cons_append, date?, year?_yearText, Option.pure_def,
    Option.bind_eq_bind, Option.bind_some, separator?_cons (by decide : Text.isBlank '-' = false),
    field?_padded month, field?_padded day]

theorem time?_clockText {time : TimeOfDay} (valid : time.isValid) (rest : List Char) :
    time? (clockText time ++ (fractionText time.nano ++ 'Z' :: rest)) = some (time, 'Z' :: rest) := by
  simp only [TimeOfDay.isValid, Bool.and_eq_true, decide_eq_true_eq] at valid
  obtain ⟨⟨⟨hour, minute⟩, second⟩, nano⟩ := valid
  simp only [clockText, List.append_assoc, List.cons_append, time?, Option.pure_def,
    Option.bind_eq_bind, Option.bind_some, separator?_cons (by decide : Text.isBlank ':' = false),
    field?_padded (show time.hour < 100 by omega), field?_padded (show time.minute < 100 by omega),
    field?_padded (show time.second < 100 by omega), fraction?_fractionText nano]

theorem daysInMonth_le (year : Int) (month : Nat) : daysInMonth year month ≤ 31 := by
  unfold daysInMonth
  split
  · split <;> decide
  all_goals decide

theorem month_le_of_daysInMonth {year : Int} {month : Nat} (some : 0 < daysInMonth year month) :
    month ≤ 12 := by
  unfold daysInMonth at some
  split at some
  all_goals first | decide | exact absurd some (Nat.lt_irrefl 0)

theorem fields_of_isValid {date : Date} (valid : date.isValid) : date.month < 100 ∧ date.day < 100 := by
  simp only [Date.isValid, Bool.and_eq_true, decide_eq_true_eq] at valid
  obtain ⟨⟨-, first⟩, last⟩ := valid
  have longest := daysInMonth_le date.year date.month
  have named := month_le_of_daysInMonth (Nat.lt_of_lt_of_le first last)
  omega

/-- A reading without an offset is the instant that reads so. -/
theorem ofLocal?_zero (instant : Instant) : ofLocal? instant.date instant.time 0 = some instant := by
  obtain ⟨date, time, valid⟩ := instant
  have clock := valid
  simp only [Bool.and_eq_true, TimeOfDay.isValid, decide_eq_true_eq] at clock
  obtain ⟨-, ⟨⟨hour, minute⟩, -⟩, -⟩ := clock
  have hours : ((((time.hour : Int) * 60 + time.minute - 0) % 1440) / 60).toNat = time.hour := by omega
  have minutes : ((((time.hour : Int) * 60 + time.minute - 0) % 1440) % 60).toNat = time.minute := by
    omega
  have notBefore : ¬ (time.hour : Int) * 60 + time.minute - 0 < 0 := by omega
  have notAfter : ¬ 1440 ≤ (time.hour : Int) * 60 + time.minute - 0 := by omega
  simp only [ofLocal?, valid, if_true, hours, minutes, notBefore, notAfter, if_false]
  exact dif_pos valid

/-- The written form of an instant is read as that instant. -/
theorem ofText?_text (instant : Instant) : ofText? instant.text = some instant := by
  have valid := instant.valid
  simp only [Bool.and_eq_true] at valid
  obtain ⟨month, day⟩ := fields_of_isValid valid.1
  have zulu : offset? ['Z'] = some (0, []) := rfl
  have solid : skipBlanks ['Z'] = ['Z'] := rfl
  simp only [ofText?, text, String.toList_ofList, List.append_assoc, List.cons_append,
    date?_dateText month day, Option.bind_eq_bind, Option.bind_some, betweenDateAndTime?, true_or,
    if_true]
  rw [time?_clockText valid.2 []]
  simp only [Option.bind_some, solid, zulu]
  exact ofLocal?_zero instant

end Instant
end PathShell
