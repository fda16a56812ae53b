import PathShell.Proofs.Instant.Text

/-!
# The calendar counts days

The day after a day of the calendar is the next one in the count of days, over the ends of months and
of years, and the day before is the one before. So an instant that is written with an offset from UTC
stands as many minutes before its reading as the offset says, and what files are stamped with stands
in the millisecond of the clock.
-/

namespace PathShell

/-! ## Days -/

namespace Date

/-- How many days of the year come before the month. -/
def daysBefore (year : Int) (month : Nat) : Nat :=
  ((List.range month).drop 1).foldl (fun days month => days + daysInMonth year month) 0

theorem unixDay_eq (date : Date) :
    date.unixDay = 365 * (date.year - 1) + (date.year - 1) / 4 - (date.year - 1) / 100 +
      (date.year - 1) / 400 + daysBefore date.year date.month + date.day - 719163 := rfl

theorem daysBefore_succ (year : Int) {month : Nat} (named : 0 < month) :
    daysBefore year (month + 1) = daysBefore year month + daysInMonth year month := by
  rw [daysBefore, List.range_succ, List.drop_append_of_le_length (by rw [List.length_range]; exact named),
    List.foldl_append]
  rfl

theorem daysBefore_last (year : Int) :
    daysBefore year 12 = if isLeapYear year then 335 else 334 := by
  have months : (List.range 12).drop 1 = [1, 2, 3, 4, 5, 6, 7, 8, 9, 10, 11] := rfl
  rw [daysBefore, months]
  by_cases leap : isLeapYear year
  · simp [daysInMonth, leap]
  · simp [daysInMonth, leap]

/-- The first day of a year comes after the last one of the year before. -/
theorem unixDay_newYear (year : Int) :
    unixDay ⟨year + 1, 1, 1⟩ = unixDay ⟨year, 12, 31⟩ + 1 := by
  have first : daysBefore (year + 1) 1 = 0 := rfl
  have last := daysBefore_last year
  simp only [unixDay_eq, first, last]
  by_cases leap : isLeapYear year
  · rw [if_pos leap]
    simp only [isLeapYear, Bool.and_eq_true, Bool.or_eq_true, decide_eq_true_eq] at leap
    omega
  · rw [if_neg leap]
    simp only [isLeapYear, Bool.and_eq_true, Bool.or_eq_true, decide_eq_true_eq] at leap
    omega

section Valid

variable {date : Date} (valid : date.isValid)

include valid

/-- Its month is one of the twelve, and its day one of the month. -/
theorem bounds_of_isValid : 1 ≤ date.month ∧ date.month ≤ 12 ∧ 1 ≤ date.day ∧
    date.day ≤ daysInMonth date.year date.month := by
  simp only [isValid, Bool.and_eq_true, decide_eq_true_eq] at valid
  obtain ⟨⟨-, first⟩, last⟩ := valid
  have filled : 0 < daysInMonth date.year date.month := by omega
  refine ⟨Nat.one_le_iff_ne_zero.mpr fun zero => ?_, Instant.month_le_of_daysInMonth filled, first, last⟩
  rw [zero] at filled
  cases filled

theorem unixDay_next : date.next.unixDay = date.unixDay + 1 := by
  obtain ⟨named, within, first, last⟩ := bounds_of_isValid valid
  obtain ⟨year, month, day⟩ := date
  dsimp only at named within first last
  rw [next]
  split
  · simp only [unixDay_eq]
    omega
  · next full =>
    dsimp only at full ⊢
    split
    · have before := daysBefore_succ year named
      have begins : daysInMonth year month = day := by omega
      simp only [unixDay_eq, before, begins]
      omega
    · obtain rfl : month = 12 := by omega
      have december : daysInMonth year 12 = 31 := rfl
      obtain rfl : day = 31 := by omega
      exact unixDay_newYear year

theorem unixDay_previous : date.previous.unixDay = date.unixDay - 1 := by
  obtain ⟨named, within, first, last⟩ := bounds_of_isValid valid
  obtain ⟨year, month, day⟩ := date
  dsimp only at named within first last
  rw [previous]
  split
  · next later =>
    dsimp only at later
    simp only [unixDay_eq]
    omega
  · next single =>
    dsimp only at single ⊢
    obtain rfl : day = 1 := by omega
    split
    · have before := daysBefore_succ year (show 0 < month - 1 by omega)
      rw [Nat.sub_add_cancel named] at before
      simp only [unixDay_eq, before]
      omega
    · obtain rfl : month = 1 := by omega
      have newYear := unixDay_newYear (year - 1)
      rw [Int.sub_add_cancel] at newYear
      rw [newYear]
      omega

end Valid

end Date

/-! ## Instants -/

namespace Instant

theorem unixMillis_eq (instant : Instant) :
    instant.unixMillis =
      (instant.date.unixDay * 1440 + instant.time.hour * 60 + instant.time.minute) * 60000 +
        instant.time.second * 1000 + instant.time.nano / 1000000 := by
  rw [unixMillis]
  omega

/-- The start of a millisecond stands in that millisecond. -/
theorem unixMillis_toMillisecond (instant : Instant) :
    instant.toMillisecond.unixMillis = instant.unixMillis := by
  simp only [unixMillis_eq, toMillisecond]
  omega

/-- Thousandths are written with a point and three digits, or not at all. -/
theorem length_fractionText_le {nano : Nat} (small : nano < 1000000000) (whole : nano % 1000000 = 0) :
    (fractionText nano).length ≤ 4 := by
  have fits : nano / 1000000 < Nat.pow 10 3 := by
    have power : Nat.pow 10 3 = 1000 := rfl
    omega
  have width := Digits.length_padded (by decide : 0 < 3) fits
  by_cases zero : nano = 0
  · simp [fractionText, zero]
  · simp [fractionText, zero, whole, width]

theorem length_fractionText_toMillisecond (instant : Instant) :
    (fractionText instant.toMillisecond.time.nano).length ≤ 4 := by
  have valid := instant.valid
  simp only [TimeOfDay.isValid, Bool.and_eq_true, decide_eq_true_eq] at valid
  simp only [toMillisecond]
  exact length_fractionText_le (by omega) (by omega)

/-! ## Offsets -/

theorem lt_of_offsetMinutes? {cs rest : List Char} {minutes : Nat}
    (read : offsetMinutes? cs = some (minutes, rest)) : minutes < 1440 := by
  rw [offsetMinutes?] at read
  split at read
  · cases read
  · split at read
    · cases read
    · split at read
      · next within =>
        cases read
        omega
      · cases read

/-- An offset is less than a day. -/
theorem lt_of_offset? {cs rest : List Char} {east : Int} (read : offset? cs = some (east, rest)) :
    -1440 < east ∧ east < 1440 := by
  unfold offset? at read
  split at read
  · cases read
    decide
  · split at read
    · cases read
    · split at read
      · cases read
        decide
      · split at read
        · obtain ⟨⟨minutes, after⟩, found, same⟩ := Option.map_eq_some_iff.mp read
          have short := lt_of_offsetMinutes? found
          cases same
          omega
        · split at read
          · obtain ⟨⟨minutes, after⟩, found, same⟩ := Option.map_eq_some_iff.mp read
            have short := lt_of_offsetMinutes? found
            cases same
            omega
          · cases read

theorem of?_eq_some {date : Date} {time : TimeOfDay} {instant : Instant}
    (made : of? date time = some instant) : instant.date = date ∧ instant.time = time := by
  rw [of?] at made
  split at made
  · cases made
    exact ⟨rfl, rfl⟩
  · cases made

/-- A reading with an offset is the instant that many minutes before it. -/
theorem unixMillis_ofLocal? {cs rest : List Char} {east : Int}
    (offset : offset? cs = some (east, rest)) {date : Date} {time : TimeOfDay} {instant : Instant}
    (read : ofLocal? date time east = some instant) :
    ∃ reading : Instant, reading.date = date ∧ reading.time = time ∧
      instant.unixMillis = reading.unixMillis - east * 60000 := by
  obtain ⟨low, high⟩ := lt_of_offset? offset
  rw [ofLocal?] at read
  split at read
  · next valid =>
    refine ⟨⟨date, time, valid⟩, rfl, rfl, ?_⟩
    obtain ⟨day, hours⟩ := of?_eq_some read
    have both := valid
    simp only [Bool.and_eq_true, TimeOfDay.isValid, decide_eq_true_eq] at both
    have before := Date.unixDay_previous both.1
    have after := Date.unixDay_next both.1
    -- The offset moves the reading over one end of its day at most.
    simp only [unixMillis_eq, day, hours]
    split
    · rw [before]
      omega
    · split
      · rw [after]
        omega
      · omega
  · cases read

end Instant
end PathShell
