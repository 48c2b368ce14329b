import ScriptClient.Proofs.Calendar.Formula
import ScriptClient.Proofs.Text.Columns
import ScriptClient.Proofs.Text.Utf8
import ScriptClient.Timestamp

set_option autoImplicit false

/-! # Timestamps and their texts

What the text of a moment says, read back and counted through the calendar, is the moment itself
(`read?_render`, `inCalendar_reading`, `seconds_reading`). A text is a row of seven numbers
(`write_eq`), and the numbers are ordered like the moments (`numbers_lt_iff`). So are the texts, as
long as every number fits its column, which the year does up to 9999 (`timestamps_faithful`). -/

namespace ScriptClient

open Text

namespace Timestamp

/-! ## Readings -/

/-- The numbers in the text of a moment. -/
structure Reading where
  date : Date
  hour : Nat
  minute : Nat
  second : Nat
  millis : Nat

namespace Reading

/-- Reads a text of the form `YYYY-MM-DDTHH:MM:SS.mmmZ`, whatever the numbers in it. -/
def read? (s : String) : Option Reading :=
  match Column.readRow? ['-', '-', 'T', ':', ':', '.', 'Z'] s.toList with
  | some [year, month, day, hour, minute, second, millis] =>
    some ⟨⟨year, month, day⟩, hour, minute, second, millis⟩
  | _ => none

/-- The calendar has the date, and the day has the time. -/
structure InCalendar (r : Reading) : Prop where
  date_isValid : r.date.IsValid
  hour_lt : r.hour < 24
  minute_lt : r.minute < 60
  second_lt : r.second < 60

/-- The seconds from the start of 1970, with the days counted through the calendar. -/
def seconds (r : Reading) : Int :=
  r.date.toDays * 86400 + r.hour * 3600 + r.minute * 60 + r.second

end Reading

/-! ## The reading of a moment -/

variable (t : Timestamp)

/-- The day of a moment. -/
def date : Date :=
  Date.ofDays (t.seconds / 86400 : Nat)

/-- The date and the time of a moment. -/
def reading : Reading where
  date := t.date
  hour := t.seconds % 86400 / 3600
  minute := t.seconds % 86400 % 3600 / 60
  second := t.seconds % 86400 % 60
  millis := t.millis

theorem date_isValid : t.date.IsValid :=
  Date.isValid_ofDays _

theorem toDays_date : t.date.toDays = (t.seconds / 86400 : Nat) :=
  Date.toDays_ofDays _

theorem inCalendar_reading : t.reading.InCalendar where
  date_isValid := t.date_isValid
  hour_lt := by
    show t.seconds % 86400 / 3600 < 24
    omega
  minute_lt := by
    show t.seconds % 86400 % 3600 / 60 < 60
    omega
  second_lt := Nat.mod_lt _ (by decide)

/-- Counting from the start of 1970 gives the moment. -/
theorem seconds_reading : t.reading.seconds = t.seconds := by
  simp only [Reading.seconds, reading, toDays_date]
  omega

/-- No moment is before 1970. -/
theorem le_year : 1970 ≤ t.date.year := by
  have hlast := t.date_isValid.year_bounds.2
  rw [toDays_date] at hlast
  have hstart : Date.daysToYear 1970 < Date.daysToYear (t.date.year + 1) :=
    Int.lt_of_le_of_lt (Int.natCast_nonneg _) hlast
  have hyear := Date.daysToYear_lt_iff.mp hstart
  omega

/-! ## Texts -/

/-- The columns of a text. -/
def columns : List Column :=
  [⟨4, '-'⟩, ⟨2, '-'⟩, ⟨2, 'T'⟩, ⟨2, ':'⟩, ⟨2, ':'⟩, ⟨2, '.'⟩, ⟨3, 'Z'⟩]

/-- The numbers in a text, from the largest unit to the smallest. -/
def numbers : List Nat :=
  [t.reading.date.year.toNat, t.reading.date.month, t.reading.date.day, t.reading.hour,
    t.reading.minute, t.reading.second, t.reading.millis]

theorem writeRow_columns (year month day hour minute second millis : Nat) :
    Column.writeRow columns [year, month, day, hour, minute, second, millis] =
      Decimal.padded 4 year ++ '-' :: Decimal.padded 2 month ++ '-' :: Decimal.padded 2 day ++
        'T' :: Decimal.padded 2 hour ++ ':' :: Decimal.padded 2 minute ++
        ':' :: Decimal.padded 2 second ++ '.' :: Decimal.padded 3 millis ++ ['Z'] := by
  simp only [columns, Column.writeRow, List.append_assoc, List.cons_append]

theorem write_eq : t.write = Column.writeRow columns t.numbers :=
  (writeRow_columns ..).symm

theorem toList_render : t.render.toList = Column.writeRow columns t.numbers := by
  rw [render, String.toList_ofList, write_eq]

/-- **Texts are read back** to the date and the time. -/
theorem read?_render : Reading.read? t.render = some t.reading := by
  have hrow : Column.readRow? (columns.map Column.mark) t.render.toList = some t.numbers := by
    rw [toList_render]
    exact Column.readRow?_writeRow rfl (by decide)
  have hyear : (t.reading.date.year.toNat : Int) = t.reading.date.year :=
    Int.toNat_of_nonneg (Int.le_trans (by decide) t.le_year)
  rw [Reading.read?, show ['-', '-', 'T', ':', ':', '.', 'Z'] = columns.map Column.mark from rfl,
    hrow]
  simp only [numbers, hyear]

theorem encode_render_lt_iff {t t' : Timestamp} :
    Utf8.encode t.render < Utf8.encode t'.render ↔
      Column.writeRow columns t.numbers < Column.writeRow columns t'.numbers := by
  rw [Utf8.encode_lt_encode_iff, String.lt_iff_toList_lt, toList_render, toList_render]

/-! ## Order -/

/-- The moment is earlier than another. -/
def Before (t t' : Timestamp) : Prop :=
  t.seconds < t'.seconds ∨ t.seconds = t'.seconds ∧ t.millis < t'.millis

/-- The year of a moment has four digits. -/
def HasFourDigitYear : Prop :=
  1000 ≤ t.date.year ∧ t.date.year ≤ 9999

instance : Decidable t.HasFourDigitYear :=
  inferInstanceAs (Decidable (_ ∧ _))

/-- The numbers fit their columns, because those of the calendar have at most two digits. -/
theorem fits_numbers {t : Timestamp} (hyear : t.HasFourDigitYear) (hmillis : t.millis < 1000) :
    Column.Fits columns t.numbers := by
  obtain ⟨⟨_, hmonth, _, hday⟩, hhour, hminute, hsecond⟩ := t.inCalendar_reading
  have hlength := (Date.monthLength_bounds t.reading.date.year t.reading.date.month).2
  have hfour : t.reading.date.year ≤ 9999 := hyear.2
  have hthree : t.reading.millis < 1000 := hmillis
  simp only [Column.Fits, columns, numbers, List.forall₂_cons, List.Forall₂.nil, and_true]
  omega

theorem length_render {t : Timestamp} (h : Column.Fits columns t.numbers) :
    t.render.length = 24 := by
  rw [← String.length_toList, toList_render, Column.length_writeRow h]
  rfl

/-- Days are ordered like their dates. -/
theorem date_before_iff {t t' : Timestamp} :
    t.date.Before t'.date ↔ t.seconds / 86400 < t'.seconds / 86400 := by
  rw [← t.date_isValid.toDays_lt_iff t'.date_isValid, toDays_date, toDays_date, Int.ofNat_lt]

theorem date_eq_iff {t t' : Timestamp} :
    t.date = t'.date ↔ t.seconds / 86400 = t'.seconds / 86400 := by
  refine ⟨fun h => ?_, fun h => by rw [date, date, h]⟩
  rw [← Int.ofNat_inj, ← toDays_date, ← toDays_date, h]

/-- Seconds of a day are ordered like hours, minutes and seconds. -/
theorem secondOfDay_lt_iff {m n k l : Nat} :
    (m / 3600 < n / 3600 ∨ m / 3600 = n / 3600 ∧
      (m % 3600 / 60 < n % 3600 / 60 ∨ m % 3600 / 60 = n % 3600 / 60 ∧
        (m % 60 < n % 60 ∨ m % 60 = n % 60 ∧ k < l))) ↔ m < n ∨ m = n ∧ k < l := by
  omega

/-- **Moments in order.** A moment is earlier exactly if the first of its numbers that differs is
smaller. -/
theorem numbers_lt_iff {t t' : Timestamp} : t.numbers < t'.numbers ↔ t.Before t' := by
  -- the second of the day stands for hour, minute and second
  have hday : t.Before t' ↔ t.date.Before t'.date ∨ t.date = t'.date ∧
      (t.seconds % 86400 < t'.seconds % 86400 ∨
        t.seconds % 86400 = t'.seconds % 86400 ∧ t.millis < t'.millis) := by
    rw [date_before_iff, date_eq_iff, Before]
    omega
  have hdate : t.date = t'.date ↔ t.date.year = t'.date.year ∧
      t.date.month = t'.date.month ∧ t.date.day = t'.date.day := by
    rw [← Date.mk.injEq]
  have hyear := t.le_year
  have hyear' := t'.le_year
  have hlt : t.date.year.toNat < t'.date.year.toNat ↔ t.date.year < t'.date.year := by omega
  have heq : t.date.year.toNat = t'.date.year.toNat ↔ t.date.year = t'.date.year := by omega
  have hnil : ¬ ([] : List Nat) < [] := List.not_lt_nil []
  simp only [numbers, reading, List.cons_lt_cons_iff, hnil, and_false, or_false, hlt, heq,
    secondOfDay_lt_iff]
  simp only [hday, Date.Before, hdate, and_or_left, or_assoc, and_assoc]

/-- **Faithful timestamps.** The text of a moment reads as a date and a time of the calendar, and
counting from the start of 1970 gives the moment back. If the milliseconds are fewer than a second,
and the years have four digits, texts have 24 characters, and the text of a moment is smaller than
another, byte by byte, exactly if the moment is earlier. -/
theorem timestamps_faithful (t : Timestamp) :
    (∃ r, Reading.read? t.render = some r ∧ r.InCalendar ∧ r.seconds = t.seconds ∧
      r.millis = t.millis) ∧
    ∀ t' : Timestamp, t.millis < 1000 → t'.millis < 1000 →
      t.HasFourDigitYear → t'.HasFourDigitYear →
        t.render.length = 24 ∧ t'.render.length = 24 ∧
          (t.Before t' ↔ Utf8.encode t.render < Utf8.encode t'.render) := by
  refine ⟨⟨t.reading, t.read?_render, t.inCalendar_reading, t.seconds_reading, rfl⟩, ?_⟩
  intro t' hmillis hmillis' hyear hyear'
  have hfits := fits_numbers hyear hmillis
  have hfits' := fits_numbers hyear' hmillis'
  refine ⟨length_render hfits, length_render hfits', ?_⟩
  rw [encode_render_lt_iff, Column.writeRow_lt_writeRow_iff hfits hfits', numbers_lt_iff]

/-- The last moment before a leap day, and the first one of the day. -/
theorem timestamps_faithful_leap_day :
    let t : Timestamp := ⟨1709164799, 999⟩
    let t' : Timestamp := ⟨1709164800, 0⟩
    t.render = "2024-02-28T23:59:59.999Z" ∧ t'.render = "2024-02-29T00:00:00.000Z" ∧
      (∃ r, Reading.read? t.render = some r ∧ r.InCalendar ∧ r.seconds = t.seconds ∧
        r.millis = t.millis) ∧
      (t.millis < 1000 ∧ t'.millis < 1000 ∧ t.HasFourDigitYear ∧ t'.HasFourDigitYear) ∧
      t.render.length = 24 ∧ t'.render.length = 24 ∧
      Utf8.encode t.render < Utf8.encode t'.render := by
  intro t t'
  obtain ⟨hread, horder⟩ := timestamps_faithful t
  have hyear : t.HasFourDigitYear := by decide
  have hyear' : t'.HasFourDigitYear := by decide
  obtain ⟨hlength, hlength', hlt⟩ := horder t' (by decide) (by decide) hyear hyear'
  exact ⟨by cbv, by cbv, hread, ⟨by decide, by decide, hyear, hyear'⟩, hlength, hlength',
    hlt.mp (.inl (by decide))⟩

end Timestamp

end ScriptClient
