import ScriptClient.Proofs.Text.Decimal
import ScriptClient.Proofs.Text.Pieces
import ScriptClient.Settings.Connection

set_option autoImplicit false

/-! # The language of timeouts

Which texts are lengths of time, and which lengths they are, apart from any reader: a number with a
unit behind it (`Names`), or a word for no timeout (`IsOff`). What is not off is read as a timeout
exactly if it names one, and all else is refused (`timeouts_read`). A unit is found although one of
them ends with another. -/

namespace ScriptClient

namespace Timeout

open Text Decimal

/-! ## Lengths -/

/-- The timeout is so many nanoseconds long, the whole seconds of them counted apart. -/
def Lasts (t : Timeout) (nanos : Nat) : Prop :=
  t.nanos < 1000000000 ∧ t.seconds * 1000000000 + t.nanos = nanos

theorem Lasts.unique {t t' : Timeout} {nanos : Nat} (h : t.Lasts nanos) (h' : t'.Lasts nanos) :
    t = t' := by
  obtain ⟨seconds, rest⟩ := t
  obtain ⟨seconds', rest'⟩ := t'
  simp only [Lasts] at h h'
  rw [mk.injEq]
  omega

theorem lasts_ofSeconds (n : Nat) : (ofSeconds n).Lasts (n * 1000000000) := by
  simp only [Lasts, ofSeconds]
  omega

theorem lasts_ofMillis (n : Nat) : (ofMillis n).Lasts (n * 1000000) := by
  simp only [Lasts, ofMillis]
  omega

/-! ## Units -/

/-- The units of a length of time. -/
inductive Measure where
  /-- Seconds, with nothing behind the number. -/
  | bare
  | millis
  | seconds
  | minutes
  | hours

namespace Measure

/-- What stands behind a number of units. -/
def ending : Measure → List Char
  | bare => []
  | millis => ['m', 's']
  | seconds => ['s']
  | minutes => ['m']
  | hours => ['h']

/-- The length of a unit in nanoseconds. -/
def nanos : Measure → Nat
  | bare => 1000000000
  | millis => 1000000
  | seconds => 1000000000
  | minutes => 60 * 1000000000
  | hours => 3600 * 1000000000

/-- How many of what is counted in 64 bits make a unit: milliseconds of a millisecond, and seconds
of all others. -/
def factor : Measure → Nat
  | bare => 1
  | millis => 1
  | seconds => 1
  | minutes => 60
  | hours => 3600

/-- The timeout of `n` units. -/
def timeout (n : Nat) : Measure → Timeout
  | bare => ofSeconds n
  | millis => ofMillis n
  | m => ofSeconds (n * m.factor)

theorem lasts_timeout (n : Nat) (m : Measure) : (m.timeout n).Lasts (n * m.nanos) := by
  cases m with
  | bare => exact lasts_ofSeconds n
  | millis => exact lasts_ofMillis n
  | _ =>
    simp only [timeout, factor, nanos, Lasts, ofSeconds]
    omega

end Measure

/-! ## Texts -/

/-- The text, trimmed and in lowercase, stands for no timeout. -/
def IsOff (cs : List Char) : Prop :=
  cs = [] ∨ cs = ['o', 'f', 'f'] ∨ cs = ['0']

/-- The text, trimmed and in lowercase, is a number of units that can be counted in 64 bits. -/
def Counts (cs : List Char) (n : Nat) (m : Measure) : Prop :=
  n * m.factor < UInt64.size ∧ ∃ number, cs = number ++ m.ending ∧ StandsFor number n

/-- The text, trimmed and in lowercase, names the timeout. -/
def Names (cs : List Char) (t : Timeout) : Prop :=
  ∃ n m, Counts cs n m ∧ t.Lasts (n * m.nanos)

theorem names_iff {cs : List Char} {t : Timeout} :
    Names cs t ↔ ∃ n m, Counts cs n m ∧ t = m.timeout n := by
  constructor
  · rintro ⟨n, m, hcounts, hlasts⟩
    exact ⟨n, m, hcounts, hlasts.unique (m.lasts_timeout n)⟩
  · rintro ⟨n, m, hcounts, rfl⟩
    exact ⟨n, m, hcounts, m.lasts_timeout n⟩

/-! ## Reading -/

/-- A number of seconds, minutes or hours is read if it can be counted. -/
theorem readUnits_of_standsFor {factor n : Nat} {number : List Char} (h : StandsFor number n)
    (hpos : 0 < factor) (hlt : n * factor < UInt64.size) :
    readUnits factor number = .ok (some (ofSeconds (n * factor))) := by
  have hn : n < UInt64.size := Nat.lt_of_le_of_lt (Nat.le_mul_of_pos_right n hpos) hlt
  rw [readUnits, unsigned?_eq_some_iff.mpr ⟨h, hn⟩]
  exact if_pos hlt

/-- A number ends with no unit, since it ends with a digit. -/
theorem dropEnding?_of_standsFor {number ending : List Char} {n : Nat} {c : Char}
    (h : StandsFor number n) (hlast : ending.getLast? = some c) (hletter : c.isDigit = false) :
    dropEnding? ending number = none := by
  obtain ⟨front, d, rfl, hdigit⟩ := h.exists_last
  refine dropEnding?_of_last_ne hlast ?_ front
  rintro rfl
  exact Bool.false_ne_true (hletter.symm.trans hdigit)

/-- A number of units is read as their timeout: the units are tried in such an order that none is
taken for another. -/
theorem readPlain_of_counts {cs : List Char} {n : Nat} {m : Measure} (hoff : ¬ IsOff cs)
    (h : Counts cs n m) : readPlain cs = .ok (some (m.timeout n)) := by
  obtain ⟨hlt, number, rfl, hnumber⟩ := h
  have hsame : ∀ ending, dropEnding? ending (number ++ ending) = some number :=
    fun ending => (dropEnding?_eq_some_iff ending _ number).mpr rfl
  have hother : ∀ (ending : List Char) (c d : Char), ending.getLast? = some d → d ≠ c →
      dropEnding? ending (number ++ [c]) = none :=
    fun _ _ _ hlast hne => dropEnding?_of_last_ne hlast hne number
  have hnone : ∀ (ending : List Char) (c : Char), ending.getLast? = some c → c.isDigit = false →
      dropEnding? ending number = none :=
    fun _ _ => dropEnding?_of_standsFor hnumber
  rw [IsOff] at hoff
  rw [readPlain, if_neg hoff]
  cases m with
  | bare =>
    rw [Measure.factor, Nat.mul_one] at hlt
    simp only [Measure.ending, List.append_nil, hnone ['m', 's'] 's' rfl rfl,
      hnone ['s'] 's' rfl rfl, hnone ['m'] 'm' rfl rfl, hnone ['h'] 'h' rfl rfl,
      unsigned?_eq_some_iff.mpr ⟨hnumber, hlt⟩, Measure.timeout]
  | millis =>
    rw [Measure.factor, Nat.mul_one] at hlt
    simp only [Measure.ending, hsame, unsigned?_eq_some_iff.mpr ⟨hnumber, hlt⟩, Measure.timeout]
  | seconds =>
    -- the ending of milliseconds would need an `m` at the end of the number
    have hmillis : dropEnding? ['m', 's'] (number ++ ['s']) = none :=
      (dropEnding?_append_append ['m'] number ['s']).trans (hnone ['m'] 'm' rfl rfl)
    simp only [Measure.ending, hmillis, hsame]
    exact readUnits_of_standsFor hnumber (by decide) hlt
  | minutes =>
    simp only [Measure.ending, hother ['m', 's'] 'm' 's' rfl (by decide),
      hother ['s'] 'm' 's' rfl (by decide), hsame]
    exact readUnits_of_standsFor hnumber (by decide) hlt
  | hours =>
    simp only [Measure.ending, hother ['m', 's'] 'h' 's' rfl (by decide),
      hother ['s'] 'h' 's' rfl (by decide), hother ['m'] 'h' 'm' rfl (by decide), hsame]
    exact readUnits_of_standsFor hnumber (by decide) hlt

/-- What a text is read as: it is refused, or it is the timeout of a number of units that the text
counts. -/
def Settles (cs : List Char) (r : Except Fault (Option Timeout)) : Prop :=
  (∃ fault, r = .error fault) ∨ ∃ n m, Counts cs n m ∧ r = .ok (some (m.timeout n))

theorem settles_unsigned (m : Measure) (hone : m.factor = 1) (fault : Fault) (number : List Char) :
    Settles (number ++ m.ending)
      (match unsigned? number with
        | none => .error fault
        | some n => .ok (some (m.timeout n))) := by
  cases hnumber : unsigned? number with
  | none => exact .inl ⟨fault, rfl⟩
  | some n =>
    obtain ⟨hstands, hlt⟩ := unsigned?_eq_some_iff.mp hnumber
    exact .inr ⟨n, m, ⟨by rwa [hone, Nat.mul_one], number, rfl, hstands⟩, rfl⟩

theorem settles_readUnits (m : Measure) (hseconds : ∀ n, m.timeout n = ofSeconds (n * m.factor))
    (number : List Char) : Settles (number ++ m.ending) (readUnits m.factor number) := by
  rw [readUnits]
  cases hnumber : unsigned? number with
  | none => exact .inl ⟨_, rfl⟩
  | some n =>
    by_cases hlt : n * m.factor < UInt64.size
    · refine .inr ⟨n, m, ⟨hlt, number, rfl, (unsigned?_eq_some_iff.mp hnumber).1⟩, ?_⟩
      rw [hseconds]
      exact if_pos hlt
    · exact .inl ⟨_, if_neg hlt⟩

theorem settles_readPlain {cs : List Char} (hoff : ¬ IsOff cs) : Settles cs (readPlain cs) := by
  rw [IsOff] at hoff
  rw [readPlain, if_neg hoff]
  split
  next number h =>
    rw [(dropEnding?_eq_some_iff _ _ _).mp h]
    exact settles_unsigned .millis rfl (.badNumber number) number
  next =>
  split
  next number h =>
    rw [(dropEnding?_eq_some_iff _ _ _).mp h]
    exact settles_readUnits .seconds (fun _ => rfl) number
  next =>
  split
  next number h =>
    rw [(dropEnding?_eq_some_iff _ _ _).mp h]
    exact settles_readUnits .minutes (fun _ => rfl) number
  next =>
  split
  next number h =>
    rw [(dropEnding?_eq_some_iff _ _ _).mp h]
    exact settles_readUnits .hours (fun _ => rfl) number
  next =>
    have hbare := settles_unsigned .bare rfl (.badLength cs) cs
    rw [Measure.ending, List.append_nil] at hbare
    exact hbare

/-! ## The language -/

theorem readPlain_of_off {cs : List Char} (h : IsOff cs) : readPlain cs = .ok none :=
  if_pos h

theorem readPlain_eq_none_iff {cs : List Char} : readPlain cs = .ok none ↔ IsOff cs := by
  refine ⟨fun h => ?_, readPlain_of_off⟩
  by_cases hoff : IsOff cs
  · exact hoff
  · rcases settles_readPlain hoff with ⟨fault, hr⟩ | ⟨n, m, -, hr⟩
    · cases hr.symm.trans h
    · cases hr.symm.trans h

theorem readPlain_eq_some_iff {cs : List Char} {t : Timeout} :
    readPlain cs = .ok (some t) ↔ ¬ IsOff cs ∧ Names cs t := by
  rw [names_iff]
  constructor
  · intro h
    have hoff : ¬ IsOff cs := fun hoff => by cases (readPlain_of_off hoff).symm.trans h
    refine ⟨hoff, ?_⟩
    rcases settles_readPlain hoff with ⟨fault, hr⟩ | ⟨n, m, hcounts, hr⟩
    · cases hr.symm.trans h
    · cases hr.symm.trans h
      exact ⟨n, m, hcounts, rfl⟩
  · rintro ⟨hoff, n, m, hcounts, rfl⟩
    exact readPlain_of_counts hoff hcounts

theorem exists_fault_iff {cs : List Char} :
    (∃ fault, readPlain cs = .error fault) ↔ ¬ IsOff cs ∧ ∀ t, ¬ Names cs t := by
  constructor
  · rintro ⟨fault, h⟩
    have hoff : ¬ IsOff cs := fun hoff => by cases (readPlain_of_off hoff).symm.trans h
    refine ⟨hoff, fun t hnames => ?_⟩
    cases h.symm.trans (readPlain_eq_some_iff.mpr ⟨hoff, hnames⟩)
  · rintro ⟨hoff, hnames⟩
    rcases settles_readPlain hoff with hr | ⟨n, m, hcounts, -⟩
    · exact hr
    · exact absurd (names_iff.mpr ⟨n, m, hcounts, rfl⟩) (hnames _)

end Timeout

/-! ## Timeouts in a setting -/

namespace Settings.Connection

/-- A variable gives the timeout that its value is read as. -/
theorem loadTimeout_eq_ok_iff {env : Environment} {key default : String} {r : Option Timeout} :
    loadTimeout env key default = .ok r ↔ Timeout.read (env.getD key default) = .ok r := by
  rw [loadTimeout]
  cases Timeout.read (env.getD key default) with
  | ok timeout => simp only [Except.ok.injEq]
  | error fault => exact ⟨nofun, nofun⟩

/-- A variable whose value is refused is reported by its name, with the value as it stands there. -/
theorem loadTimeout_eq_error_iff {env : Environment} {key default : String} {p : Problem} :
    loadTimeout env key default = .error p ↔
      ∃ fault, Timeout.read (env.getD key default) = .error fault ∧
        p = .parse key (env.getD key default) fault.message := by
  rw [loadTimeout]
  cases Timeout.read (env.getD key default) with
  | ok timeout => exact ⟨nofun, nofun⟩
  | error fault =>
    simp only [Except.error.injEq, exists_eq_left']
    exact eq_comm

end Settings.Connection

/-- **Timeouts.** A text is trimmed and put into lowercase. If it is empty, `off` or `0`, it stands
for no timeout; if it is a number of units, with or without a plus, that can be counted in 64 bits,
it is read as the timeout of exactly that length; all else is refused. A variable that is read for a
timeout gives what its value is read as, and exactly a value that is refused becomes a problem. The
problem has the name of the variable and the value as it stands there. -/
theorem timeouts_read (s : String) :
    let text := Text.lowercase (Text.trim s.toList)
    (Timeout.read s = .ok none ↔ Timeout.IsOff text) ∧
      (∀ t, Timeout.read s = .ok (some t) ↔ ¬ Timeout.IsOff text ∧ Timeout.Names text t) ∧
      ((∃ fault, Timeout.read s = .error fault) ↔
        ¬ Timeout.IsOff text ∧ ∀ t, ¬ Timeout.Names text t) ∧
      ∀ (env : Settings.Environment) (key default : String),
        let value := env.getD key default
        (∀ r, Settings.Connection.loadTimeout env key default = .ok r ↔
          Timeout.read value = .ok r) ∧
        ∀ p, Settings.Connection.loadTimeout env key default = .error p ↔
          ∃ fault, Timeout.read value = .error fault ∧ p = .parse key value fault.message :=
  ⟨Timeout.readPlain_eq_none_iff, fun _ => Timeout.readPlain_eq_some_iff, Timeout.exists_fault_iff,
    fun _ _ _ => ⟨fun _ => Settings.Connection.loadTimeout_eq_ok_iff,
      fun _ => Settings.Connection.loadTimeout_eq_error_iff⟩⟩

end ScriptClient
