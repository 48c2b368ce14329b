import Mathlib.Data.Int.Init
import Mathlib.Tactic.IntervalCases
import ScriptClient.Proofs.Calendar.Count

set_option autoImplicit false

/-! # The date of a day

The formula for the date of a day is the inverse of counting (`isValid_ofDays`, `toDays_ofDays`), so
the date of the next day is the next date (`ofDays_succ`). A day of an era is taken apart into the
cycles of the calendar (`EraDay`); years begin in March, so their leap day is their last day. -/

namespace ScriptClient.Date

/-! ## Days of an era -/

/-- A day of an era of 400 years: its century, the cycle of four years in the century, the year in
the cycle, and the day in the year, all counted from 0. A year has a leap day if it is the last one
of its cycle, unless the cycle is the last one of a century that does not end the era. -/
structure EraDay where
  century : Nat
  cycle : Nat
  year : Nat
  day : Nat
  century_lt : century < 4
  cycle_lt : cycle < 25
  year_lt : year < 4
  day_lt : day < 365 ∨ day = 365 ∧ year = 3 ∧ (cycle < 24 ∨ century = 3)

namespace EraDay

/-- The number of the day in its era. -/
def number (e : EraDay) : Nat :=
  36524 * e.century + 1461 * e.cycle + 365 * e.year + e.day

/-- The number of the year in its era. -/
def yearOfEra (e : EraDay) : Nat :=
  100 * e.century + 4 * e.cycle + e.year

theorem exists_number {n : Nat} (h : n < 146097) : ∃ e : EraDay, e.number = n := by
  -- the last day of an era would begin a fifth century, and the last day of a cycle a fifth year
  let century := min 3 (n / 36524)
  let rest := n - 36524 * century
  let year := min 3 (rest % 1461 / 365)
  refine ⟨⟨century, rest / 1461, year, rest % 1461 - 365 * year, ?_, ?_, ?_, ?_⟩, ?_⟩
  · omega
  · omega
  · omega
  · omega
  · simp only [number]
    omega

variable (e : EraDay)

theorem number_lt : e.number < 146097 := by
  obtain ⟨c, b, a, k, hc, hb, ha, hk⟩ := e
  simp only [number]
  omega

/-- The corrections for the leap days give the year. -/
theorem yearOfEra_eq :
    (e.number - e.number / 1460 + e.number / 36524 - e.number / 146096) / 365 = e.yearOfEra := by
  obtain ⟨c, b, a, k, hc, hb, ha, hk⟩ := e
  simp only [number, yearOfEra]
  by_cases hlast : 36524 * c + 1461 * b + 365 * a + k = 146096
  · rw [hlast]
    omega
  · have hcentury : (36524 * c + 1461 * b + 365 * a + k) / 36524 = c := by omega
    have hera : (36524 * c + 1461 * b + 365 * a + k) / 146096 = 0 := by omega
    -- late in the last year of a cycle, its leap day is already taken off
    have hcycles : (36524 * c + 1461 * b + 365 * a + k) / 1460 =
        25 * c + b + (if 1460 ≤ 24 * c + b + 365 * a + k then 1 else 0) := by
      split <;> omega
    rw [hcentury, hera, hcycles]
    split <;> omega

theorem day_eq :
    e.number - (365 * e.yearOfEra + e.yearOfEra / 4 - e.yearOfEra / 100) = e.day := by
  obtain ⟨c, b, a, k, hc, hb, ha, hk⟩ := e
  simp only [number, yearOfEra]
  omega

theorem yearOfEra_lt : e.yearOfEra < 400 := by
  obtain ⟨c, b, a, k, hc, hb, ha, hk⟩ := e
  simp only [yearOfEra]
  omega

theorem number_eq :
    e.number = 365 * e.yearOfEra + e.yearOfEra / 4 - e.yearOfEra / 100 + e.day := by
  obtain ⟨c, b, a, k, hc, hb, ha, hk⟩ := e
  simp only [number, yearOfEra]
  omega

end EraDay

/-! ## Years as a formula -/

theorem yearLength_eq (year : Int) :
    (yearLength year : Int) =
      365 + (year / 4 - (year - 1) / 4) - (year / 100 - (year - 1) / 100) +
        (year / 400 - (year - 1) / 400) := by
  rw [yearLength, isLeapYear]
  simp only [Bool.and_eq_true, Bool.or_eq_true, decide_eq_true_eq]
  split <;> omega

/-- The days to a year are counted by its leap days: 477 years up to 1969 have one. -/
theorem daysToYear_eq (year : Int) :
    daysToYear year =
      365 * (year - 1970) + (year - 1) / 4 - (year - 1) / 100 + (year - 1) / 400 - 477 := by
  induction year using Int.inductionOn' (b := 1970) with
  | zero => rfl
  | succ k _ ih =>
    rw [daysToYear_succ, ih, yearLength_eq]
    omega
  | pred k _ ih =>
    have hsucc := daysToYear_succ (k - 1)
    rw [yearLength_eq, Int.sub_add_cancel] at hsucc
    omega

/-- The leap day is the last day of a year that begins in March. -/
theorem EraDay.day_lt_yearLength (e : EraDay) (era : Int) :
    e.day < yearLength (e.yearOfEra + era * 400 + 1) := by
  have hlength := yearLength_eq (e.yearOfEra + era * 400 + 1)
  obtain ⟨c, b, a, k, hc, hb, ha, hk⟩ := e
  simp only [yearOfEra] at hlength ⊢
  omega

/-! ## Months of years that begin in March -/

/-- The days from the start of March to the start of a month, by the number of the month from
March. -/
def daysFromMarch (month : Nat) : Nat :=
  (153 * month + 2) / 5

/-- The date of a day in a year that begins in March. -/
def ofMarch (year : Int) (dayOfYear : Nat) : Date :=
  let monthFromMarch := (5 * dayOfYear + 2) / 153
  let month := if monthFromMarch < 10 then monthFromMarch + 3 else monthFromMarch - 9
  ⟨year + (if month ≤ 2 then 1 else 0), month, dayOfYear - daysFromMarch monthFromMarch + 1⟩

theorem daysFromMarch_bounds {day : Nat} (h : day ≤ 365) :
    (5 * day + 2) / 153 < 12 ∧ daysFromMarch ((5 * day + 2) / 153) ≤ day ∧
      day < daysFromMarch ((5 * day + 2) / 153 + 1) := by
  simp only [daysFromMarch]
  omega

/-- The months from March to December come after the leap day of their year. -/
theorem daysOfMonths_late (year : Int) {month : Nat} (h : month < 10) :
    daysOfMonths year (month + 2) + 306 = yearLength year + daysFromMarch month := by
  rw [yearLength]
  cases hleap : isLeapYear year <;> interval_cases month <;>
    simp [daysOfMonths, monthLength, daysFromMarch, hleap]

theorem daysOfMonths_early (year : Int) {month : Nat} (h : 10 ≤ month) (h' : month < 12) :
    daysOfMonths year (month - 10) + 306 = daysFromMarch month := by
  interval_cases month <;> rfl

theorem monthLength_late (year : Int) {month : Nat} (h : month < 10) :
    daysFromMarch month + monthLength year (month + 3) = daysFromMarch (month + 1) := by
  interval_cases month <;> rfl

/-- February may end before the formula lets it, but not before its year does. -/
theorem monthLength_early (year : Int) {month : Nat} (h : 10 ≤ month) (h' : month < 12) :
    min (daysFromMarch (month + 1)) (yearLength year) =
      daysFromMarch month + monthLength year (month - 9) := by
  rw [yearLength]
  cases hleap : isLeapYear year <;> interval_cases month <;>
    simp [monthLength, daysFromMarch, hleap]

theorem yearLength_le (year : Int) : yearLength year ≤ 366 := by
  rw [yearLength]
  split <;> decide

/-- The days of a year that begins in March are dates of the calendar, one after the other. -/
theorem ofMarch_spec {year : Int} {day : Nat} (h : day < yearLength (year + 1)) :
    (ofMarch year day).IsValid ∧
      (ofMarch year day).toDays = daysToYear (year + 1) - 306 + day := by
  have hyear := yearLength_le (year + 1)
  obtain ⟨hmonth, hlow, hhigh⟩ := daysFromMarch_bounds (show day ≤ 365 by omega)
  have hsucc := daysToYear_succ year
  simp only [ofMarch]
  generalize (5 * day + 2) / 153 = month at hmonth hlow hhigh ⊢
  rcases Nat.lt_or_ge month 10 with hlate | hearly
  · have hlength := monthLength_late year hlate
    have hdays := daysOfMonths_late year hlate
    rw [if_pos hlate, if_neg (by omega), Int.add_zero]
    refine ⟨⟨?_, ?_, ?_, ?_⟩, ?_⟩
    · show 1 ≤ month + 3
      omega
    · show month + 3 ≤ 12
      omega
    · exact Nat.le_add_left 1 _
    · show day - daysFromMarch month + 1 ≤ monthLength year (month + 3)
      omega
    · show daysToYear year + daysOfMonths year (month + 2) +
        (((day - daysFromMarch month + 1 : Nat) : Int) - 1) = _
      omega
  · have hlength := monthLength_early (year + 1) hearly hmonth
    have hdays := daysOfMonths_early (year + 1) hearly hmonth
    rw [if_neg (Nat.not_lt.mpr hearly), if_pos (by omega)]
    refine ⟨⟨?_, ?_, ?_, ?_⟩, ?_⟩
    · show 1 ≤ month - 9
      omega
    · show month - 9 ≤ 12
      omega
    · exact Nat.le_add_left 1 _
    · show day - daysFromMarch month + 1 ≤ monthLength (year + 1) (month - 9)
      omega
    · show daysToYear (year + 1) + daysOfMonths (year + 1) (month - 9 - 1) +
        (((day - daysFromMarch month + 1 : Nat) : Int) - 1) = _
      rw [show month - 9 - 1 = month - 10 by omega]
      omega

/-! ## The date of a day -/

/-- The formula takes a day to its era, and there to its year and the day in it. -/
theorem ofDays_eq {days era : Int} {e : EraDay} (h : days + 719468 = 146097 * era + e.number) :
    ofDays days = ofMarch (e.yearOfEra + era * 400) e.day := by
  have hlt := e.number_lt
  have hera : (days + 719468) / 146097 = era := by omega
  have hnumber : ((days + 719468) % 146097).toNat = e.number := by omega
  simp only [ofDays, hera, hnumber, e.yearOfEra_eq, e.day_eq]
  rfl

theorem ofDays_spec (days : Int) : (ofDays days).IsValid ∧ (ofDays days).toDays = days := by
  obtain ⟨e, he⟩ := EraDay.exists_number (n := ((days + 719468) % 146097).toNat) (by omega)
  have hdays : days + 719468 = 146097 * ((days + 719468) / 146097) + e.number := by omega
  generalize (days + 719468) / 146097 = era at hdays
  obtain ⟨hvalid, hcount⟩ := ofMarch_spec (e.day_lt_yearLength era)
  have hyear := e.yearOfEra_lt
  have hnumber := e.number_eq
  rw [ofDays_eq hdays]
  refine ⟨hvalid, ?_⟩
  rw [hcount, daysToYear_eq]
  omega

/-- Every day has a date of the calendar. -/
theorem isValid_ofDays (days : Int) : (ofDays days).IsValid :=
  (ofDays_spec days).1

/-- **The date of a day** is as many days after 1970-01-01 as it should be. -/
theorem toDays_ofDays (days : Int) : (ofDays days).toDays = days :=
  (ofDays_spec days).2

/-- **The next day** has the next date. -/
theorem ofDays_succ (days : Int) : ofDays (days + 1) = (ofDays days).next := by
  have hvalid := isValid_ofDays days
  apply (isValid_ofDays (days + 1)).eq_of_toDays_eq hvalid.next
  rw [toDays_ofDays, toDays_next hvalid, toDays_ofDays]

end ScriptClient.Date
