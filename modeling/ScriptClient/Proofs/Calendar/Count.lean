import Mathlib.Order.Monotone.Basic
import ScriptClient.Calendar

set_option autoImplicit false

/-! # Counting days

How many days lie between 1970-01-01 and a date, counted through the calendar year by year, month
by month and day by day (`Date.toDays`). The count goes up by one from a date to the next
(`toDays_next`). It follows the order of dates (`Date.IsValid.toDays_lt_iff`), so different dates of
the calendar have different counts (`Date.IsValid.eq_of_toDays_eq`). -/

namespace ScriptClient.Date

/-! ## Dates of the calendar -/

/-- A date that the calendar has. -/
structure IsValid (d : Date) : Prop where
  month_pos : 1 ≤ d.month
  month_le : d.month ≤ 12
  day_pos : 1 ≤ d.day
  day_le : d.day ≤ monthLength d.year d.month

theorem monthLength_bounds (year : Int) (month : Nat) :
    28 ≤ monthLength year month ∧ monthLength year month ≤ 31 := by
  rw [monthLength]
  split
  · split <;> decide
  · split <;> decide

theorem monthLength_pos (year : Int) (month : Nat) : 1 ≤ monthLength year month :=
  Nat.le_trans (by decide) (monthLength_bounds year month).1

theorem IsValid.next {d : Date} (h : d.IsValid) : d.next.IsValid := by
  obtain ⟨hmonth, hmonth', hday, _⟩ := h
  rw [Date.next]
  split
  next hlt => exact ⟨hmonth, hmonth', Nat.le_succ_of_le hday, hlt⟩
  next =>
    split
    next hlt => exact ⟨Nat.le_add_left 1 _, hlt, Nat.le_refl 1, monthLength_pos _ _⟩
    next => exact ⟨Nat.le_refl 1, (by decide : 1 ≤ 12), Nat.le_refl 1, monthLength_pos _ _⟩

/-! ## Months and years -/

/-- The number of days of a year. -/
def yearLength (year : Int) : Nat :=
  if isLeapYear year then 366 else 365

/-- The days of the first `n` months of a year. -/
def daysOfMonths (year : Int) : (n : Nat) → Nat
  | 0 => 0
  | n + 1 => daysOfMonths year n + monthLength year (n + 1)

/-- The days of `n` years, the first of them `year`. -/
def daysOfYears (year : Int) : (n : Nat) → Nat
  | 0 => 0
  | n + 1 => daysOfYears year n + yearLength (year + n)

/-- The days from the start of 1970 to the start of a year, negative for the years before. -/
def daysToYear (year : Int) : Int :=
  if 1970 ≤ year then daysOfYears 1970 (year - 1970).toNat
  else -daysOfYears year (1970 - year).toNat

/-- The days from 1970-01-01 to a date, negative for the dates before. -/
def toDays (d : Date) : Int :=
  daysToYear d.year + daysOfMonths d.year (d.month - 1) + (d.day - 1)

/-- The months of a year are its days. -/
theorem daysOfMonths_twelve (year : Int) : daysOfMonths year 12 = yearLength year := by
  rw [yearLength]
  cases hleap : isLeapYear year <;> simp [daysOfMonths, monthLength, hleap]

theorem strictMono_daysOfMonths (year : Int) : StrictMono (daysOfMonths year) :=
  strictMono_nat_of_lt_succ fun n => Nat.lt_add_of_pos_right (monthLength_pos year (n + 1))

theorem daysOfYears_succ (year : Int) (n : Nat) :
    daysOfYears year (n + 1) = yearLength year + daysOfYears (year + 1) n := by
  induction n with
  | zero => simp [daysOfYears]
  | succ n ih =>
    have hlast : year + ((n + 1 : Nat) : Int) = year + 1 + n := by omega
    rw [daysOfYears, ih, daysOfYears, hlast, Nat.add_assoc]

/-- From the start of a year to the start of the next are the days of the year. -/
theorem daysToYear_succ (year : Int) :
    daysToYear (year + 1) = daysToYear year + yearLength year := by
  rcases Int.lt_or_le year 1970 with hbefore | hafter
  · -- before 1970 the year is the first one of those that are counted
    obtain ⟨n, hn⟩ : ∃ n : Nat, 1970 - year = ((n + 1 : Nat) : Int) :=
      ⟨(1969 - year).toNat, by omega⟩
    have hrest : daysToYear (year + 1) = -daysOfYears (year + 1) n := by
      rw [daysToYear]
      split
      next hlast =>
        have hyear : year + 1 = 1970 := by omega
        have hzero : n = 0 := by omega
        rw [hyear, hzero]
        rfl
      next =>
        rw [show 1970 - (year + 1) = (n : Int) by omega, Int.toNat_natCast]
    rw [hrest, daysToYear, if_neg (by omega), hn, Int.toNat_natCast, daysOfYears_succ]
    omega
  · obtain ⟨n, hn⟩ : ∃ n : Nat, year - 1970 = (n : Int) := ⟨(year - 1970).toNat, by omega⟩
    have hyear : year = 1970 + (n : Int) := by omega
    rw [daysToYear, daysToYear, if_pos (by omega), if_pos hafter, hn,
      show year + 1 - 1970 = ((n + 1 : Nat) : Int) by omega, Int.toNat_natCast, Int.toNat_natCast,
      daysOfYears, ← hyear, Int.natCast_add]

theorem yearLength_pos (year : Int) : 1 ≤ yearLength year := by
  rw [yearLength]
  split <;> decide

theorem daysToYear_lt_iff {y z : Int} : daysToYear y < daysToYear z ↔ y < z := by
  have hmono : StrictMono daysToYear := by
    refine strictMono_int_of_lt_succ fun year => ?_
    have hpos := yearLength_pos year
    rw [daysToYear_succ]
    omega
  exact hmono.lt_iff_lt

/-! ## Counts of dates -/

/-- **The count of the next date** is greater by one. -/
theorem toDays_next {d : Date} (h : d.IsValid) : d.next.toDays = d.toDays + 1 := by
  obtain ⟨year, month, day⟩ := d
  obtain ⟨hmonth, hmonth', hday, hday'⟩ := h
  simp only at hmonth hmonth' hday hday'
  obtain ⟨m, rfl⟩ : ∃ m, month = m + 1 := ⟨month - 1, by omega⟩
  simp only [Date.next]
  split
  next hlt =>
    simp only [toDays]
    omega
  next hlast =>
    have hlength : day = monthLength year (m + 1) := by omega
    split
    next hlt =>
      simp only [toDays, Nat.add_sub_cancel, daysOfMonths]
      omega
    next hend =>
      -- the last day of December
      have hm : m + 1 = 12 := by omega
      have hmonths : daysOfMonths year m + monthLength year (m + 1) = yearLength year := by
        rw [← daysOfMonths_twelve, ← hm, daysOfMonths]
      simp only [toDays, Nat.add_sub_cancel, daysToYear_succ, Nat.sub_self, daysOfMonths]
      omega

/-- The month of a date is found by the day of the year, counted from 0. -/
theorem IsValid.month_bounds {d : Date} (h : d.IsValid) :
    (daysOfMonths d.year (d.month - 1) : Int) ≤ d.toDays - daysToYear d.year ∧
      d.toDays - daysToYear d.year < daysOfMonths d.year d.month := by
  obtain ⟨year, month, day⟩ := d
  obtain ⟨hmonth, hmonth', hday, hday'⟩ := h
  simp only at hmonth hmonth' hday hday'
  obtain ⟨m, rfl⟩ : ∃ m, month = m + 1 := ⟨month - 1, by omega⟩
  simp only [toDays, Nat.add_sub_cancel, daysOfMonths]
  omega

theorem IsValid.year_bounds {d : Date} (h : d.IsValid) :
    daysToYear d.year ≤ d.toDays ∧ d.toDays < daysToYear (d.year + 1) := by
  obtain ⟨hlow, hhigh⟩ := h.month_bounds
  have hyear : daysOfMonths d.year d.month ≤ yearLength d.year := by
    rw [← daysOfMonths_twelve]
    exact (strictMono_daysOfMonths d.year).monotone h.month_le
  rw [daysToYear_succ]
  omega

/-- The date comes before another in the calendar. -/
def Before (d e : Date) : Prop :=
  d.year < e.year ∨ d.year = e.year ∧
    (d.month < e.month ∨ d.month = e.month ∧ d.day < e.day)

theorem before_or_eq_or_before (d e : Date) : d.Before e ∨ d = e ∨ e.Before d := by
  obtain ⟨year, month, day⟩ := d
  obtain ⟨year', month', day'⟩ := e
  simp only [Before, mk.injEq]
  omega

/-- A date has a smaller count than the dates after it. -/
theorem IsValid.toDays_lt {d e : Date} (hd : d.IsValid) (he : e.IsValid) (h : d.Before e) :
    d.toDays < e.toDays := by
  rcases h with hyear | ⟨hyear, hmonth | ⟨hmonth, hday⟩⟩
  · have hle : daysToYear (d.year + 1) ≤ daysToYear e.year :=
      Int.not_lt.mp (mt daysToYear_lt_iff.mp (by omega))
    have hlast := hd.year_bounds.2
    have hfirst := he.year_bounds.1
    omega
  · have hle : daysOfMonths e.year d.month ≤ daysOfMonths e.year (e.month - 1) :=
      (strictMono_daysOfMonths e.year).monotone (by omega)
    have hlast := hd.month_bounds.2
    have hfirst := he.month_bounds.1
    rw [hyear] at hlast
    omega
  · rw [toDays, toDays, hyear, hmonth]
    omega

/-- **Dates in order.** A date has a smaller count than another exactly if it comes before it. -/
theorem IsValid.toDays_lt_iff {d e : Date} (hd : d.IsValid) (he : e.IsValid) :
    d.toDays < e.toDays ↔ d.Before e := by
  refine ⟨fun h => ?_, hd.toDays_lt he⟩
  rcases before_or_eq_or_before d e with hbefore | rfl | hafter
  · exact hbefore
  · exact absurd h (Int.lt_irrefl _)
  · exact absurd h (Int.lt_asymm (he.toDays_lt hd hafter))

/-- **Dates with one count.** Dates of the calendar with the same count are the same. -/
theorem IsValid.eq_of_toDays_eq {d e : Date} (hd : d.IsValid) (he : e.IsValid)
    (h : d.toDays = e.toDays) : d = e := by
  rcases before_or_eq_or_before d e with hbefore | heq | hafter
  · exact absurd h (Int.ne_of_lt (hd.toDays_lt he hbefore))
  · exact heq
  · exact absurd h.symm (Int.ne_of_lt (he.toDays_lt hd hafter))

end ScriptClient.Date
