import ScriptClient.Proofs.Timeout

set_option autoImplicit false

/-! # Spellings of one length

A length of time can be spelled in many ways: with a plus or leading zeros, and in more than one
unit. What a spelling is read as depends on its length alone (`read_of_counts`), unless the length
is zero. Then the spelling `0` stands for no timeout, and every other spelling for a timeout that is
over at once, so two spellings are read alike exactly if both are `0` or neither is
(`equal_lengths_read`). -/

namespace ScriptClient.Timeout

open Text

/-- A text as it is read: trimmed and in lowercase. -/
def plain (s : String) : List Char :=
  lowercase (trim s.toList)

section

variable {cs : List Char} {n : Nat} {m : Measure}

/-! ## Spellings of zero -/

/-- A number of units ends with a digit if it has no unit, and else with the last letter of its
unit. -/
theorem Counts.last (h : Counts cs n m) :
    ∃ c, cs.getLast? = some c ∧
      (m = .bare ∧ c.isDigit = true ∨ m ≠ .bare ∧ c ∈ ['s', 'm', 'h']) := by
  obtain ⟨-, number, rfl, hnumber⟩ := h
  have hletter : ∀ c, m.ending.getLast? = some c → (number ++ m.ending).getLast? = some c := by
    intro c hc
    rw [List.getLast?_append, hc, Option.some_or]
  cases m with
  | bare =>
    obtain ⟨front, d, rfl, hdigit⟩ := hnumber.exists_last
    rw [Measure.ending, List.append_nil]
    exact ⟨d, List.getLast?_concat, .inl ⟨rfl, hdigit⟩⟩
  | millis => exact ⟨'s', hletter 's' rfl, .inr ⟨by simp, by decide⟩⟩
  | seconds => exact ⟨'s', hletter 's' rfl, .inr ⟨by simp, by decide⟩⟩
  | minutes => exact ⟨'m', hletter 'm' rfl, .inr ⟨by simp, by decide⟩⟩
  | hours => exact ⟨'h', hletter 'h' rfl, .inr ⟨by simp, by decide⟩⟩

/-- Of the numbers of units, only `0` stands for no timeout. -/
theorem Counts.isOff_iff (h : Counts cs n m) : IsOff cs ↔ cs = ['0'] := by
  refine ⟨?_, fun hzero => .inr (.inr hzero)⟩
  obtain ⟨c, hlast, hend⟩ := h.last
  rintro (rfl | rfl | hzero)
  · cases hlast
  · obtain rfl := Option.some.inj hlast
    exact absurd (hend.imp And.right And.right) (by decide)
  · exact hzero

/-- The spelling `0` has length zero. -/
theorem Counts.length_eq_zero (h : Counts cs n m) (hzero : cs = ['0']) : n * m.nanos = 0 := by
  subst hzero
  obtain ⟨c, hlast, ⟨rfl, -⟩ | ⟨-, hletter⟩⟩ := h.last
  · obtain ⟨hlt, number, htext, hnumber⟩ := h
    rw [Measure.factor, Nat.mul_one] at hlt
    rw [Measure.ending, List.append_nil] at htext
    have hread := Decimal.unsigned?_eq_some_iff.mpr ⟨hnumber, hlt⟩
    rw [← htext] at hread
    rw [← Option.some.inj hread]
    rfl
  · obtain rfl := Option.some.inj hlast
    exact absurd hletter (by decide)

/-! ## Lengths -/

/-- The timeout of a number of units depends on their length alone. -/
theorem Measure.timeout_congr {n' : Nat} {m' : Measure} (h : n * m.nanos = n' * m'.nanos) :
    m.timeout n = m'.timeout n' := by
  have hlasts := m'.lasts_timeout n'
  rw [← h] at hlasts
  exact (m.lasts_timeout n).unique hlasts

/-- A number of units is read as its timeout, or as no timeout if it is `0`. -/
theorem read_of_counts {s : String} (h : Counts (plain s) n m) :
    read s = .ok (if plain s = ['0'] then none else some (m.timeout n)) := by
  show readPlain (plain s) = _
  split
  next hzero => exact readPlain_of_off (h.isOff_iff.mpr hzero)
  next hzero => exact readPlain_of_counts (mt h.isOff_iff.mp hzero) h

/-- A number with the unit of seconds counts as much as the number does. -/
theorem Counts.seconds (h : Counts cs n .bare) : Counts (cs ++ ['s']) n .seconds := by
  obtain ⟨hlt, number, rfl, hnumber⟩ := h
  exact ⟨hlt, number, by rw [Measure.ending, List.append_nil, Measure.ending], hnumber⟩

end

/-- **Equal lengths.** Two texts that count units of the same length are read alike exactly if both
are `0` or neither is. So they are read alike, as a timeout of that length, if the length is not
zero; and a text that counts units of length zero is no timeout if it is `0`, and otherwise a
timeout that is over at once. In particular a number is read like the number with an `s` behind it,
unless it is `0`. -/
theorem equal_lengths_read {s s' : String} {n n' : Nat} {m m' : Measure}
    (h : Counts (plain s) n m) (h' : Counts (plain s') n' m')
    (hlength : n * m.nanos = n' * m'.nanos) :
    (read s = read s' ↔ (plain s = ['0'] ↔ plain s' = ['0'])) ∧
      (n * m.nanos ≠ 0 → read s = read s' ∧
        ∃ t, read s = .ok (some t) ∧ t.Lasts (n * m.nanos)) ∧
      (n * m.nanos = 0 →
        read s = .ok (if plain s = ['0'] then none else some (ofSeconds 0))) ∧
      (m = .bare → ∀ s'', plain s'' = plain s ++ ['s'] →
        (read s = read s'' ↔ plain s ≠ ['0'])) := by
  have halike : ∀ {s' n' m'}, Counts (plain s') n' m' → n * m.nanos = n' * m'.nanos →
      (read s = read s' ↔ (plain s = ['0'] ↔ plain s' = ['0'])) := by
    intro s' n' m' h' hlength
    rw [read_of_counts h, read_of_counts h', Measure.timeout_congr hlength]
    split <;> split <;> simp [*]
  refine ⟨halike h' hlength, ?_, ?_, ?_⟩
  · intro hne
    -- the text `0`, which alone could be read otherwise, has no length
    have hzero : plain s ≠ ['0'] := mt h.length_eq_zero hne
    have hzero' : plain s' ≠ ['0'] := mt h'.length_eq_zero (hlength ▸ hne)
    refine ⟨(halike h' hlength).mpr (iff_of_false hzero hzero'), m.timeout n, ?_,
      m.lasts_timeout n⟩
    rw [read_of_counts h, if_neg hzero]
  · intro hnone
    have htimeout : m.timeout n = ofSeconds 0 :=
      Measure.timeout_congr (hnone.trans (Nat.zero_mul Measure.bare.nanos).symm)
    rw [read_of_counts h, htimeout]
  · rintro rfl s'' hsuffix
    have hseconds : Counts (plain s'') n .seconds := hsuffix ▸ h.seconds
    have hother : plain s'' ≠ ['0'] := by
      intro hzero
      have hlast := congrArg List.getLast? (hsuffix.symm.trans hzero)
      rw [List.getLast?_concat] at hlast
      exact absurd (Option.some.inj hlast) (by decide)
    rw [halike hseconds rfl]
    exact iff_false_right hother

/-- Seven seconds in three spellings. -/
theorem equal_lengths_read_seven :
    Counts (plain " +007") 7 .bare ∧ Counts (plain "7000Ms") 7000 .millis ∧
      7 * Measure.bare.nanos = 7000 * Measure.millis.nanos ∧
      read " +007" = read "7000Ms" ∧ read " +007" = read "+007S" := by
  have h : Counts (plain " +007") 7 .bare :=
    ⟨by decide, "+007".toList, by decide +kernel, ['+'], ['0', '0', '7'], rfl, .inr rfl, nofun,
      List.all_eq_true.mp rfl, rfl⟩
  have h' : Counts (plain "7000Ms") 7000 .millis :=
    ⟨by decide, "7000".toList, by decide +kernel, [], "7000".toList, rfl, .inl rfl, nofun,
      List.all_eq_true.mp rfl, rfl⟩
  obtain ⟨-, halike, -, hsuffix⟩ := equal_lengths_read h h' rfl
  exact ⟨h, h', rfl, (halike (by decide)).1,
    (hsuffix rfl "+007S" (by decide +kernel)).mpr (by decide +kernel)⟩

/-- Two spellings of length zero that are not read alike. -/
theorem zero_read_apart :
    Counts (plain "0") 0 .bare ∧ Counts (plain "0s") 0 .seconds ∧
      0 * Measure.bare.nanos = 0 * Measure.seconds.nanos ∧
      read "0" = .ok none ∧ read "0s" = .ok (some ⟨0, 0⟩) :=
  ⟨⟨by decide, ['0'], by decide +kernel, [], ['0'], rfl, .inl rfl, nofun,
      List.all_eq_true.mp rfl, rfl⟩,
    ⟨by decide, ['0'], by decide +kernel, [], ['0'], rfl, .inl rfl, nofun,
      List.all_eq_true.mp rfl, rfl⟩,
    rfl, by decide +kernel, by decide +kernel⟩

end ScriptClient.Timeout
