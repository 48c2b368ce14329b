import Mathlib.Algebra.Group.Nat.Defs
import ScriptClient.Text.Blank
import ScriptClient.Text.Hex

set_option autoImplicit false

/-! # Written hexadecimal digits

Digits are read in either case (`value?_eq_some_iff`), but written in lowercase
(`isLower_of_mem_fixed`, `isLower_of_mem_ofBytes`). There are only sixteen written digits, so what
holds of them is checked digit by digit (`of_isLower`). Numbers are told by their digits, with
leading zeros and without (`fixed_inj`, `digits_inj`). -/

namespace ScriptClient.Text.Hex

/-- Whether the character is a digit as it is written: one of `0`-`9` and `a`-`f`. -/
def isLower (c : Char) : Bool :=
  ('0' ≤ c && c ≤ '9') || ('a' ≤ c && c ≤ 'f')

theorem isLower_digit {n : Nat} (h : n < 16) : isLower (digit n) = true := by
  have hall : ∀ m : Fin 16, isLower (digit m.val) = true := by decide
  exact hall ⟨n, h⟩

theorem exists_digit_of_isLower {c : Char} (h : isLower c = true) : ∃ n < 16, digit n = c := by
  have hrange : (48 ≤ c.toNat ∧ c.toNat ≤ 57) ∨ (97 ≤ c.toNat ∧ c.toNat ≤ 102) := by
    simp only [isLower, Bool.or_eq_true, Bool.and_eq_true, decide_eq_true_eq, Char.le_def] at h
    simpa [UInt32.le_iff_toNat_le] using h
  rcases hrange with ⟨hlow, hhigh⟩ | ⟨hlow, hhigh⟩
  · refine ⟨c.toNat - 48, by omega, ?_⟩
    rw [digit, if_pos (by omega), Nat.add_sub_cancel' hlow, Char.ofNat_toNat]
  · refine ⟨c.toNat - 87, by omega, ?_⟩
    rw [digit, if_neg (by omega), Nat.add_sub_cancel' (by omega), Char.ofNat_toNat]

/-- What holds of the sixteen digits holds of every written digit. -/
theorem of_isLower {p : Char → Prop} (hp : ∀ n : Fin 16, p (digit n.val)) {c : Char}
    (h : isLower c = true) : p c := by
  obtain ⟨n, hn, rfl⟩ := exists_digit_of_isLower h
  exact hp ⟨n, hn⟩

/-- A written digit is read, has no other lowercase form, and is a visible ASCII character other
than the dash. -/
theorem isLower_facts {c : Char} (h : isLower c = true) :
    isDigit c = true ∧ c.toLower = c ∧ c ≠ '-' ∧ isBlank c = false ∧ 0x20 ≤ c.toNat ∧
      c.toNat < 0x7f :=
  of_isLower (p := fun c => isDigit c = true ∧ c.toLower = c ∧ c ≠ '-' ∧ isBlank c = false ∧
    0x20 ≤ c.toNat ∧ c.toNat < 0x7f) (by decide) h

theorem toNat_lt_of_isDigit {c : Char} (h : isDigit c = true) : c.toNat < 128 := by
  have hle : c ≤ 'f' := by
    simp only [isDigit, value?] at h
    split at h
    next hc => exact Char.le_trans hc.2 (by decide)
    next =>
      split at h
      next hc => exact hc.2
      next =>
        split at h
        next hc => exact Char.le_trans hc.2 (by decide)
        next => exact absurd h Bool.false_ne_true
  exact Nat.lt_of_le_of_lt (UInt32.le_iff_toNat_le.mp hle) (by decide)

/-- The lowercase form of a digit is a written digit, and zero only for zero. -/
theorem isLower_toLower {c : Char} (h : isDigit c = true) :
    isLower c.toLower = true ∧ (c.toLower = '0' → c = '0') := by
  have hall : ∀ m : Fin 128, isDigit (Char.ofNat m.val) = true →
      isLower (Char.ofNat m.val).toLower = true ∧
        ((Char.ofNat m.val).toLower = '0' → Char.ofNat m.val = '0') := by
    decide +kernel
  have hc := hall ⟨c.toNat, toNat_lt_of_isDigit h⟩
  rw [Char.ofNat_toNat] at hc
  exact hc h

/-! ## Digits in either case -/

/-- The character is a digit for the number, in either case. -/
def StandsFor (c : Char) (n : Nat) : Prop :=
  n < 16 ∧ c.toLower = digit n

theorem toLower_of_le {c : Char} (h : 128 ≤ c.toNat) : c.toLower = c := by
  refine dif_neg fun hupper => ?_
  have hle : c.toNat ≤ 'Z'.toNat := UInt32.le_iff_toNat_le.mp hupper.2
  exact absurd (Nat.le_trans h hle) (by decide)

theorem toNat_lt_of_standsFor {c : Char} {n : Nat} (h : StandsFor c n) : c.toNat < 128 := by
  refine Nat.lt_of_not_le fun hc => ?_
  have hlower := (isLower_facts (isLower_digit h.1)).2.2.2.2.2
  rw [← h.2, toLower_of_le hc] at hlower
  omega

/-- Reading a digit gives the number that it stands for. -/
theorem value?_eq_some_iff {c : Char} {n : Nat} : value? c = some n ↔ StandsFor c n := by
  have hread : ∀ m : Fin 128, ∀ n ∈ value? (Char.ofNat m.val),
      n < 16 ∧ (Char.ofNat m.val).toLower = digit n := by
    decide +kernel
  have hstands : ∀ (m : Fin 128) (n : Fin 16), (Char.ofNat m.val).toLower = digit n.val →
      value? (Char.ofNat m.val) = some n.val := by
    decide +kernel
  constructor
  · intro h
    have hc := hread ⟨c.toNat, toNat_lt_of_isDigit (Option.isSome_of_eq_some h)⟩ n
    rw [Char.ofNat_toNat] at hc
    exact hc h
  · intro h
    have hc := hstands ⟨c.toNat, toNat_lt_of_standsFor h⟩ ⟨n, h.1⟩
    rw [Char.ofNat_toNat] at hc
    exact hc h.2

theorem isDigit_iff {c : Char} : isDigit c = true ↔ ∃ n, StandsFor c n := by
  rw [isDigit, Option.isSome_iff_exists]
  exact exists_congr fun n => value?_eq_some_iff

/-! ## Written numbers and bytes -/

theorem isLower_of_mem_fixed {width n : Nat} {c : Char} (h : c ∈ fixed width n) :
    isLower c = true := by
  induction width generalizing n with
  | zero => exact absurd h List.not_mem_nil
  | succ width ih =>
    rw [fixed, List.mem_append, List.mem_singleton] at h
    rcases h with h | rfl
    · exact ih h
    · exact isLower_digit (Nat.mod_lt _ (by decide))

theorem isLower_of_mem_ofBytes {bytes : List UInt8} {c : Char} (h : c ∈ ofBytes bytes) :
    isLower c = true := by
  obtain ⟨b, -, hc⟩ := List.mem_flatMap.mp h
  have hb : b.toNat < 256 := b.toNat_lt
  rw [List.mem_cons, List.mem_singleton] at hc
  rcases hc with rfl | rfl
  · exact isLower_digit (by omega)
  · exact isLower_digit (Nat.mod_lt _ (by decide))

/-- An odd number does not end in a zero. -/
theorem exists_ne_zero_of_odd {width n : Nat} (hwidth : 0 < width) (hodd : n % 2 = 1) :
    ∃ c ∈ fixed width n, c ≠ '0' := by
  obtain ⟨width, rfl⟩ := Nat.exists_eq_succ_of_ne_zero (Nat.ne_of_gt hwidth)
  refine ⟨digit (n % 16), by rw [fixed]; exact List.mem_append_right _ List.mem_cons_self, ?_⟩
  have hall : ∀ m : Fin 16, m.val % 2 = 1 → digit m.val ≠ '0' := by decide
  exact hall ⟨n % 16, Nat.mod_lt _ (by decide)⟩ (by show n % 16 % 2 = 1; omega)

/-- The digits of a number are its high digits, and then its low ones. -/
theorem fixed_add (high low n : Nat) :
    fixed (high + low) n = fixed high (n / 16 ^ low) ++ fixed low n := by
  induction low generalizing n with
  | zero => simp [fixed]
  | succ low ih =>
    rw [← Nat.add_assoc, fixed, ih, fixed, List.append_assoc, Nat.div_div_eq_div_mul,
      Nat.pow_succ, Nat.mul_comm]

theorem fixed_succ_eq_cons (width n : Nat) :
    fixed (width + 1) n = digit (n / 16 ^ width % 16) :: fixed width n := by
  rw [Nat.add_comm, fixed_add]
  rfl

theorem mod_eq_of_digit_eq {m n : Nat} (h : digit (m % 16) = digit (n % 16)) :
    m % 16 = n % 16 := by
  have hread := congrArg value? h
  rwa [value?_digit _ (Nat.mod_lt m (by decide)), value?_digit _ (Nat.mod_lt n (by decide)),
    Option.some.injEq] at hread

/-- Numbers that fit their width are told by their digits. -/
theorem fixed_inj {width m n : Nat} (hm : m < 16 ^ width) (hn : n < 16 ^ width) :
    fixed width m = fixed width n ↔ m = n := by
  refine ⟨fun h => ?_, congrArg (fixed width)⟩
  induction width generalizing m n with
  | zero => omega
  | succ width ih =>
    rw [Nat.pow_succ] at hm hn
    rw [fixed, fixed] at h
    obtain ⟨hhigh, hlow⟩ := List.append_inj' h rfl
    have hdiv : m / 16 = n / 16 := ih (by omega) (by omega) hhigh
    have hmod : m % 16 = n % 16 := mod_eq_of_digit_eq (List.singleton_inj.mp hlow)
    omega

/-! ## Numbers without leading zeros -/

theorem digitChar_eq {n : Nat} (h : n < 16) : n.digitChar = digit n := by
  have hall : ∀ m : Fin 16, m.val.digitChar = digit m.val := by decide
  exact hall ⟨n, h⟩

theorem digits_of_lt {n : Nat} (h : n < 16) : digits n = [digit n] := by
  rw [digits, Nat.toDigits_of_lt_base h, digitChar_eq h]

theorem digits_of_le {n : Nat} (h : 16 ≤ n) : digits n = digits (n / 16) ++ [digit (n % 16)] := by
  rw [digits, digits, Nat.toDigits_of_base_le (by decide) h,
    digitChar_eq (Nat.mod_lt n (by decide))]

theorem isLower_of_mem_digits {n : Nat} {c : Char} (h : c ∈ digits n) : isLower c = true := by
  induction n using Nat.strongRecOn with
  | ind n ih =>
    by_cases hsmall : n < 16
    · rw [digits_of_lt hsmall, List.mem_singleton] at h
      rw [h]
      exact isLower_digit hsmall
    · rw [digits_of_le (Nat.le_of_not_lt hsmall), List.mem_append, List.mem_singleton] at h
      rcases h with h | rfl
      · exact ih (n / 16) (by omega) h
      · exact isLower_digit (Nat.mod_lt n (by decide))

/-- A number is told by its last digit and those before it. -/
theorem exists_digits_eq_append (n : Nat) :
    ∃ front, digits n = front ++ [digit (n % 16)] ∧
      (n < 16 ∧ front = [] ∨ 16 ≤ n ∧ front = digits (n / 16)) := by
  by_cases hsmall : n < 16
  · exact ⟨[], by rw [digits_of_lt hsmall, Nat.mod_eq_of_lt hsmall]; rfl, .inl ⟨hsmall, rfl⟩⟩
  · have hlarge := Nat.le_of_not_lt hsmall
    exact ⟨_, digits_of_le hlarge, .inr ⟨hlarge, rfl⟩⟩

theorem digits_inj {m n : Nat} : digits m = digits n ↔ m = n := by
  refine ⟨fun h => ?_, congrArg digits⟩
  induction m using Nat.strongRecOn generalizing n with
  | ind m ih =>
    obtain ⟨front, hm, hfront⟩ := exists_digits_eq_append m
    obtain ⟨front', hn, hfront'⟩ := exists_digits_eq_append n
    rw [hm, hn] at h
    obtain ⟨rfl, hlast⟩ := List.append_inj' h rfl
    have hmod : m % 16 = n % 16 := mod_eq_of_digit_eq (List.singleton_inj.mp hlast)
    rcases hfront with ⟨hlt, rfl⟩ | ⟨hle, rfl⟩
    · rcases hfront' with ⟨hlt', -⟩ | ⟨-, hnil⟩
      · omega
      · exact absurd hnil.symm Nat.toDigits_ne_nil
    · rcases hfront' with ⟨-, hnil⟩ | ⟨hle', hdigits⟩
      · exact absurd hnil Nat.toDigits_ne_nil
      · have hdiv : m / 16 = n / 16 := ih (m / 16) (by omega) hdigits
        omega

end ScriptClient.Text.Hex
