import ScriptClient.Proofs.Calendar.Formula

set_option autoImplicit false

/-! # Dates in machine words

The formula for the date of a day, computed in signed words of 64 bits in which every step is
checked (`Date.ofDaysInWords?`). If the first step stays in the range, so do all others, and the
result is the date of the day (`ofDays_isCalendar`). -/

namespace ScriptClient

/-- A number of a computation in signed words of 64 bits. There is none once a step of the
computation has left their range, or has divided by zero. -/
structure Word where
  value? : Option Int

namespace Word

/-- Whether a word holds the number. -/
def InRange (n : Int) : Prop :=
  -2 ^ 63 ≤ n ∧ n < 2 ^ 63

instance (n : Int) : Decidable (InRange n) :=
  inferInstanceAs (Decidable (_ ∧ _))

/-- The number in a word. -/
def ofInt (n : Int) : Word :=
  ⟨if InRange n then some n else none⟩

/-- One step of a computation. -/
def step (f : Int → Int → Option Int) (v w : Word) : Word :=
  match v.value?, w.value? with
  | some m, some n =>
    match f m n with
    | some result => ofInt result
    | none => ⟨none⟩
  | _, _ => ⟨none⟩

instance instLiteral (n : Nat) : OfNat Word n := ⟨ofInt n⟩
instance : Add Word := ⟨step fun m n => some (m + n)⟩
instance : Sub Word := ⟨step fun m n => some (m - n)⟩
instance : Mul Word := ⟨step fun m n => some (m * n)⟩

/-- Division rounds towards zero. -/
instance : Div Word := ⟨step fun m n => if n = 0 then none else some (m.tdiv n)⟩

/-- Division with a remainder that is not negative. -/
def divEuclid : Word → Word → Word :=
  step fun m n => if n = 0 then none else some (m / n)

/-- The remainder that is not negative. -/
def modEuclid : Word → Word → Word :=
  step fun m n => if n = 0 then none else some (m % n)

/-- The number as one of 32 bits without a sign, if it is one. -/
def unsigned32? (w : Word) : Option Nat :=
  match w.value? with
  | some n => if 0 ≤ n ∧ n < 2 ^ 32 then some n.toNat else none
  | none => none

end Word

/-- The date that lies `days` days after 1970-01-01, if no step of its computation in words leaves
their range. -/
def Date.ofDaysInWords? (days : Int) : Option Date := do
  let shifted := Word.ofInt days + 719468
  let era := shifted.divEuclid 146097
  let dayOfEra := shifted.modEuclid 146097
  let yearOfEra := (dayOfEra - dayOfEra / 1460 + dayOfEra / 36524 - dayOfEra / 146096) / 365
  let dayOfYear := dayOfEra - (365 * yearOfEra + yearOfEra / 4 - yearOfEra / 100)
  let monthFromMarch := (5 * dayOfYear + 2) / 153
  let day ← (dayOfYear - (153 * monthFromMarch + 2) / 5 + 1).unsigned32?
  let early := (← monthFromMarch.value?) < 10
  let month ← (if early then monthFromMarch + 3 else monthFromMarch - 9).unsigned32?
  let year ← (yearOfEra + era * 400 + (if month ≤ 2 then 1 else 0)).value?
  return ⟨year, month, day⟩

/-! ## Steps that stay in the range -/

namespace Word

/-- A number that a word holds. -/
def exact (n : Int) : Word := ⟨some n⟩

theorem ofInt_eq {n : Int} (h : InRange n) : ofInt n = exact n := by
  rw [ofInt, if_pos h]
  rfl

theorem inRange_natCast {n : Nat} (h : n < 2 ^ 63) : InRange n := by
  constructor <;> omega

theorem literal_eq {n : Nat} (h : (OfNat.ofNat n : Nat) < 2 ^ 63) :
    (OfNat.ofNat n : Word) = exact (OfNat.ofNat n : Nat) := by
  have hword := ofInt_eq (inRange_natCast h)
  exact hword

theorem add_exact {m n : Int} (h : InRange (m + n)) : exact m + exact n = exact (m + n) :=
  ofInt_eq h

theorem mul_exact {m n : Int} (h : InRange (m * n)) : exact m * exact n = exact (m * n) :=
  ofInt_eq h

theorem divEuclid_exact {m n : Int} (hzero : n ≠ 0) (h : InRange (m / n)) :
    (exact m).divEuclid (exact n) = exact (m / n) := by
  simp only [divEuclid, step, exact, if_neg hzero]
  exact ofInt_eq h

theorem modEuclid_exact {m n : Int} (hzero : n ≠ 0) (h : InRange (m % n)) :
    (exact m).modEuclid (exact n) = exact (m % n) := by
  simp only [modEuclid, step, exact, if_neg hzero]
  exact ofInt_eq h

theorem add_natCast {m n : Nat} (h : m + n < 2 ^ 63) :
    exact m + exact n = exact (m + n : Nat) :=
  ofInt_eq (inRange_natCast h)

theorem mul_natCast {m n : Nat} (h : m * n < 2 ^ 63) :
    exact m * exact n = exact (m * n : Nat) :=
  ofInt_eq (inRange_natCast h)

theorem sub_natCast {m n : Nat} (h : n ≤ m) (h' : m < 2 ^ 63) :
    exact m - exact n = exact (m - n : Nat) := by
  rw [Int.ofNat_sub h]
  exact ofInt_eq ⟨by omega, by omega⟩

theorem div_natCast {m n : Nat} (h : 0 < n) (h' : m < 2 ^ 63) :
    exact m / exact n = exact (m / n : Nat) := by
  have hzero : (n : Int) ≠ 0 := by omega
  have hle : m / n ≤ m := Nat.div_le_self m n
  show step _ (exact m) (exact n) = _
  simp only [step, exact, if_neg hzero]
  exact ofInt_eq (inRange_natCast (by omega))

theorem unsigned32?_natCast {n : Nat} (h : n < 2 ^ 32) : (exact n).unsigned32? = some n := by
  simp only [unsigned32?, exact]
  rw [if_pos ⟨by omega, by omega⟩, Int.toNat_natCast]

end Word

namespace Date

open Word

theorem words_yearOfEra (e : EraDay) :
    (exact e.number - exact e.number / 1460 + exact e.number / 36524 - exact e.number / 146096) /
      365 = exact e.yearOfEra := by
  have hlt := e.number_lt
  rw [← e.yearOfEra_eq]
  simp (disch := omega) only [literal_eq, div_natCast, sub_natCast, add_natCast]

theorem words_day (e : EraDay) :
    exact e.number - (365 * exact e.yearOfEra + exact e.yearOfEra / 4 - exact e.yearOfEra / 100) =
      exact e.day := by
  have hlt := e.number_lt
  have hyear := e.yearOfEra_lt
  have hnumber := e.number_eq
  rw [← e.day_eq]
  simp (disch := omega) only [literal_eq, div_natCast, sub_natCast, add_natCast, mul_natCast]

theorem words_month {day : Nat} (h : day ≤ 365) :
    (5 * exact day + 2) / 153 = exact ((5 * day + 2) / 153 : Nat) := by
  simp (disch := omega) only [literal_eq, div_natCast, add_natCast, mul_natCast]

theorem words_dayOfMonth {day month : Nat} (h : day ≤ 365) (h' : daysFromMarch month ≤ day) :
    exact day - (153 * exact month + 2) / 5 + 1 = exact (day - daysFromMarch month + 1 : Nat) := by
  simp only [daysFromMarch] at h' ⊢
  simp (disch := omega) only [literal_eq, div_natCast, add_natCast, sub_natCast, mul_natCast]

theorem words_monthOfYear {month : Nat} (h : month < 12) :
    (if (month : Int) < 10 then exact month + 3 else exact month - 9) =
      exact (if month < 10 then month + 3 else month - 9 : Nat) := by
  rcases Nat.lt_or_ge month 10 with hlate | hearly
  · rw [if_pos (by omega), if_pos hlate]
    simp (disch := omega) only [literal_eq, add_natCast]
  · rw [if_neg (by omega), if_neg (by omega)]
    simp (disch := omega) only [literal_eq, sub_natCast]

/-- The years of an era of days in the range are far from its ends. -/
theorem words_year {yearOfEra : Nat} {era : Int} (h : yearOfEra < 400)
    (hera : InRange (146097 * era)) (early : Prop) [Decidable early] :
    exact yearOfEra + exact era * 400 + (if early then 1 else 0) =
      exact (yearOfEra + era * 400 + (if early then 1 else 0)) := by
  have hperiod : (400 : Word) = exact 400 := literal_eq (by decide)
  have hcarry : (if early then (1 : Word) else 0) = exact (if early then 1 else 0) := by
    split
    · exact literal_eq (by decide)
    · exact literal_eq (by decide)
  obtain ⟨hlow, hhigh⟩ := hera
  rw [hperiod, hcarry, mul_exact ⟨by omega, by omega⟩, add_exact ⟨by omega, by omega⟩,
    add_exact (by split <;> exact ⟨by omega, by omega⟩)]

/-- The first steps shift the day and find its era. -/
theorem words_era {days : Int} (h : InRange days) (hshift : InRange (days + 719468)) :
    (ofInt days + 719468).divEuclid 146097 = exact ((days + 719468) / 146097) ∧
      (ofInt days + 719468).modEuclid 146097 = exact ((days + 719468) % 146097) := by
  have hoffset : (719468 : Word) = exact 719468 := literal_eq (by decide)
  have hperiod : (146097 : Word) = exact 146097 := literal_eq (by decide)
  obtain ⟨hlow, hhigh⟩ := hshift
  rw [ofInt_eq h, hoffset, hperiod, add_exact ⟨hlow, hhigh⟩]
  exact ⟨divEuclid_exact (by decide) ⟨by omega, by omega⟩,
    modEuclid_exact (by decide) ⟨by omega, by omega⟩⟩

/-- **Steps in words** come to the date of the day if the first of them stays in the range. -/
theorem ofDaysInWords?_eq {days : Int} (h : InRange days) (hshift : InRange (days + 719468)) :
    ofDaysInWords? days = some (ofDays days) := by
  obtain ⟨hera, hnumber⟩ := words_era h hshift
  obtain ⟨e, he⟩ := EraDay.exists_number (n := ((days + 719468) % 146097).toNat) (by omega)
  have hdays : days + 719468 = 146097 * ((days + 719468) / 146097) + e.number := by omega
  rw [show (days + 719468) % 146097 = e.number by omega] at hnumber
  have hrange : InRange (146097 * ((days + 719468) / 146097)) := by
    obtain ⟨hlow, _⟩ := h
    obtain ⟨_, hhigh⟩ := hshift
    exact ⟨by omega, by omega⟩
  generalize (days + 719468) / 146097 = era at hdays hera hrange
  have hday : e.day ≤ 365 := by
    have hlt := e.day_lt
    omega
  obtain ⟨hmonth, hlow, _⟩ := daysFromMarch_bounds hday
  rw [ofDays_eq hdays, ofDaysInWords?]
  simp only [hera, hnumber, words_yearOfEra, words_day, words_month hday, ofMarch]
  generalize (5 * e.day + 2) / 153 = month at hmonth hlow ⊢
  have hmonths : (if month < 10 then month + 3 else month - 9) ≤ 12 := by
    split <;> omega
  rw [words_dayOfMonth hday hlow, Word.unsigned32?_natCast (by omega), Option.bind_eq_bind,
    Option.bind_some, show (exact month).value? = some (month : Int) from rfl, Option.bind_eq_bind,
    Option.bind_some, words_monthOfYear hmonth, Word.unsigned32?_natCast (by omega),
    Option.bind_some, words_year e.yearOfEra_lt hrange]
  rfl

/-- **The formula is the calendar.** The date of a day is a date of the calendar and lies as many
days after 1970-01-01 as it should, and the next day has the next date. A computation in words comes
to the same date: after its first step, no step can leave the range. -/
theorem ofDays_isCalendar {days : Int} (h : InRange days) (hshift : InRange (days + 719468)) :
    ofDaysInWords? days = some (ofDays days) ∧ (ofDays days).IsValid ∧
      (ofDays days).toDays = days ∧ ofDays (days + 1) = (ofDays days).next :=
  ⟨ofDaysInWords?_eq h hshift, isValid_ofDays days, toDays_ofDays days, ofDays_succ days⟩

/-- February 1900 has no 29th day, although 4 divides the year. -/
theorem ofDays_isCalendar_at_century :
    InRange (-25509) ∧ InRange (-25509 + 719468) ∧
      ofDaysInWords? (-25509) = some ⟨1900, 2, 28⟩ ∧ ofDays (-25509 + 1) = ⟨1900, 3, 1⟩ := by
  have hrange : InRange (-25509) := by decide
  have hshift : InRange (-25509 + 719468) := by decide
  obtain ⟨hwords, _, _, hnext⟩ := ofDays_isCalendar hrange hshift
  exact ⟨hrange, hshift, hwords, hnext⟩

example : ofDays 0 = ⟨1970, 1, 1⟩ := by decide

/-- The year 2000 has a 29th day of February, although 100 divides it. -/
example : ofDays 11016 = ⟨2000, 2, 29⟩ := by decide

end Date

end ScriptClient
