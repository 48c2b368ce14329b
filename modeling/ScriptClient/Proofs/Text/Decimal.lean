import Mathlib.Algebra.Group.Nat.Defs
import ScriptClient.Text.Decimal

set_option autoImplicit false

/-! # Decimal numbers as they are shown and read

A number is shown by its digits, with a minus sign before them if it is negative
(`toList_toString_int`). A text is read as an unsigned number exactly if it stands for one that is
small enough, be it with leading zeros or with a plus (`unsigned?_eq_some_iff`). Numbers that are
filled up with zeros to one width are ordered like their texts (`padded_lt_padded_iff`). -/

namespace ScriptClient.Text.Decimal

theorem toList_toString_int (n : Int) :
    (toString n).toList =
      if 0 ≤ n then Nat.toDigits 10 n.toNat else '-' :: Nat.toDigits 10 (-n).toNat := by
  rw [Int.toString_eq_repr, Int.repr_eq_if]
  by_cases h : 0 ≤ n
  · rw [if_pos h, if_pos h, Nat.toList_repr]
  · rw [if_neg h, if_neg h, String.toList_append, Nat.toList_repr]
    rfl

theorem isDigit_of_mem_toDigits {n : Nat} {c : Char} (h : c ∈ Nat.toDigits 10 n) :
    c.isDigit = true :=
  Nat.isDigit_of_mem_toDigits (by decide) (by decide) h

theorem toNat_of_isDigit {c : Char} (h : c.isDigit = true) : 48 ≤ c.toNat ∧ c.toNat ≤ 57 := by
  simp only [Char.isDigit, Bool.and_eq_true, decide_eq_true_eq, ge_iff_le,
    UInt32.le_iff_toNat_le] at h
  exact h

theorem no_control_of_isDigit {c : Char} (h : c.isDigit = true) : 0x20 ≤ c.toNat :=
  Nat.le_trans (by decide) (toNat_of_isDigit h).1

theorem isDigit_of_mem_toString {n : Nat} {c : Char} (h : c ∈ (toString n).toList) :
    c.isDigit = true := by
  rw [Nat.toString_eq_repr, Nat.toList_repr] at h
  exact isDigit_of_mem_toDigits h

/-- A number shows nothing but digits and a sign. -/
theorem mem_toString_int {n : Int} {c : Char} (h : c ∈ (toString n).toList) :
    c.isDigit = true ∨ c = '-' := by
  rw [toList_toString_int] at h
  split at h
  · exact .inl (isDigit_of_mem_toDigits h)
  · rcases List.mem_cons.mp h with rfl | h
    · exact .inr rfl
    · exact .inl (isDigit_of_mem_toDigits h)

/-- Only zero is shown with a zero in front. -/
theorem eq_zero_of_head?_toDigits {n : Nat} (h : (Nat.toDigits 10 n).head? = some '0') :
    n = 0 := by
  induction n using Nat.strongRecOn with
  | ind n ih =>
    by_cases hsmall : n < 10
    · rw [Nat.toDigits_of_lt_base hsmall] at h
      have hdigits : ∀ m : Fin 10, some m.val.digitChar = some '0' → m.val = 0 := by decide
      exact hdigits ⟨n, hsmall⟩ h
    · obtain ⟨d, front, hfront⟩ := List.exists_cons_of_ne_nil
        (Nat.toDigits_ne_nil : Nat.toDigits 10 (n / 10) ≠ [])
      rw [Nat.toDigits_of_base_le (by decide) (by omega), hfront] at h
      have hzero : n / 10 = 0 := ih (n / 10) (by omega) (by rw [hfront]; exact h)
      omega

/-! ## Numbers that are read -/

/-- The text stands for a number: ASCII digits, with a plus in front or nothing. -/
def StandsFor (cs : List Char) (n : Nat) : Prop :=
  ∃ sign digits, cs = sign ++ digits ∧ (sign = [] ∨ sign = ['+']) ∧ digits ≠ [] ∧
    (∀ d ∈ digits, d.isDigit = true) ∧ n = Nat.ofDigitChars 10 digits 0

/-- What stands for a number ends with a digit. -/
theorem StandsFor.exists_last {cs : List Char} {n : Nat} (h : StandsFor cs n) :
    ∃ front d, cs = front ++ [d] ∧ d.isDigit = true := by
  obtain ⟨sign, digits, rfl, -, hne, hdigits, -⟩ := h
  refine ⟨sign ++ digits.dropLast, digits.getLast hne, ?_, hdigits _ (List.getLast_mem hne)⟩
  rw [List.append_assoc, List.dropLast_concat_getLast]

theorem head?_ne_plus {digits : List Char} (h : ∀ d ∈ digits, d.isDigit = true) :
    digits.head? ≠ some '+' := by
  intro hplus
  exact absurd (h '+' (List.mem_of_head? hplus)) (by decide)

/-- **Unsigned numbers.** A text is read as a number exactly if it stands for one that fits 64
bits. -/
theorem unsigned?_eq_some_iff {cs : List Char} {n : Nat} :
    unsigned? cs = some n ↔ StandsFor cs n ∧ n < UInt64.size := by
  have hvalue : ∀ digits, ofDigits digits = Nat.ofDigitChars 10 digits 0 := fun _ => rfl
  simp only [unsigned?, Option.ite_none_right_eq_some, Option.some.injEq, List.all_eq_true, hvalue]
  constructor
  · rintro ⟨⟨hne, hdigits, hlt⟩, rfl⟩
    refine ⟨?_, hlt⟩
    -- the plus in front, if there is one, is the sign
    by_cases hplus : cs.head? = some '+'
    · rw [if_pos hplus] at hne hdigits ⊢
      obtain ⟨digits, rfl⟩ := List.head?_eq_some_iff.mp hplus
      exact ⟨['+'], digits, rfl, .inr rfl, hne, hdigits, rfl⟩
    · rw [if_neg hplus] at hne hdigits ⊢
      exact ⟨[], cs, rfl, .inl rfl, hne, hdigits, rfl⟩
  · rintro ⟨⟨sign, digits, rfl, hsign, hne, hdigits, rfl⟩, hlt⟩
    rcases hsign with rfl | rfl
    · rw [List.nil_append, if_neg (head?_ne_plus hdigits)]
      exact ⟨⟨hne, hdigits, hlt⟩, rfl⟩
    · exact ⟨⟨hne, hdigits, hlt⟩, rfl⟩

/-! ## Numbers with leading zeros -/

section

variable {width n : Nat}

theorem isDigit_of_mem_padded {c : Char} (h : c ∈ padded width n) : c.isDigit = true := by
  rcases List.mem_append.mp h with h | h
  · rw [List.eq_of_mem_replicate h]
    decide
  · exact isDigit_of_mem_toDigits h

/-- Leading zeros do not change a number. -/
theorem ofDigitChars_padded (width n : Nat) : Nat.ofDigitChars 10 (padded width n) 0 = n := by
  rw [padded, Nat.ofDigitChars_append, Nat.ofDigitChars_replicate_zero, Nat.mul_zero,
    Nat.ofDigitChars_ten_toDigits]

theorem padded_inj {m : Nat} : padded width m = padded width n ↔ m = n := by
  refine ⟨fun h => ?_, congrArg (padded width)⟩
  rw [← ofDigitChars_padded width m, h, ofDigitChars_padded]

theorem padded_ne_nil (width n : Nat) : padded width n ≠ [] :=
  List.append_ne_nil_of_right_ne_nil _ Nat.toDigits_ne_nil

/-- A number that is not too large fills its width. -/
theorem length_padded (hwidth : 0 < width) (h : n < 10 ^ width) :
    (padded width n).length = width := by
  have hle := (Nat.length_toDigits_le_iff (by decide) hwidth).mpr h
  rw [padded, List.length_append, List.length_replicate]
  omega

end

/-! ## Order of digits -/

theorem lt_iff_toNat_lt {c d : Char} : c < d ↔ c.toNat < d.toNat :=
  UInt32.lt_iff_toNat_lt

theorem ofDigitChars_cons_eq (c : Char) (cs : List Char) :
    Nat.ofDigitChars 10 (c :: cs) 0 =
      (c.toNat - 48) * 10 ^ cs.length + Nat.ofDigitChars 10 cs 0 := by
  rw [Nat.ofDigitChars_cons, Nat.ofDigitChars_eq_ofDigitChars_zero, Nat.mul_zero, Nat.zero_add,
    Nat.mul_comm]
  rfl

theorem ofDigitChars_lt {cs : List Char} (h : ∀ c ∈ cs, c.isDigit = true) :
    Nat.ofDigitChars 10 cs 0 < 10 ^ cs.length := by
  induction cs with
  | nil => decide
  | cons c cs ih =>
    rw [List.forall_mem_cons] at h
    have hc := toNat_of_isDigit h.1
    have hrest := ih h.2
    have hfirst : (c.toNat - 48) * 10 ^ cs.length ≤ 9 * 10 ^ cs.length :=
      Nat.mul_le_mul_right _ (by omega)
    rw [ofDigitChars_cons_eq, List.length_cons, Nat.pow_succ]
    omega

/-- Numbers with a first digit and a rest are compared by their first digits first. -/
theorem mul_add_lt_mul_add_iff {a b v w p : Nat} (hv : v < p) (hw : w < p) :
    a * p + v < b * p + w ↔ a < b ∨ a = b ∧ v < w := by
  rcases Nat.lt_trichotomy a b with hlt | rfl | hgt
  · have hle : (a + 1) * p ≤ b * p := Nat.mul_le_mul_right p hlt
    rw [Nat.add_mul, Nat.one_mul] at hle
    omega
  · omega
  · have hle : (b + 1) * p ≤ a * p := Nat.mul_le_mul_right p hgt
    rw [Nat.add_mul, Nat.one_mul] at hle
    omega

/-- **Digits in order.** Texts of equally many digits are ordered like the numbers they stand
for. -/
theorem digits_lt_iff {cs ds : List Char} (hlength : cs.length = ds.length)
    (hcs : ∀ c ∈ cs, c.isDigit = true) (hds : ∀ d ∈ ds, d.isDigit = true) :
    cs < ds ↔ Nat.ofDigitChars 10 cs 0 < Nat.ofDigitChars 10 ds 0 := by
  induction cs generalizing ds with
  | nil =>
    obtain rfl := List.length_eq_zero_iff.mp hlength.symm
    exact iff_of_false (List.not_lt_nil []) (Nat.lt_irrefl _)
  | cons c cs ih =>
    cases ds with
    | nil => cases hlength
    | cons d ds =>
      rw [List.length_cons, List.length_cons, Nat.add_right_cancel_iff] at hlength
      rw [List.forall_mem_cons] at hcs hds
      have hc := toNat_of_isDigit hcs.1
      have hd := toNat_of_isDigit hds.1
      have hlt : c < d ↔ c.toNat - 48 < d.toNat - 48 := by
        rw [lt_iff_toNat_lt]
        omega
      have heq : c = d ↔ c.toNat - 48 = d.toNat - 48 := by
        rw [← Char.toNat_inj]
        omega
      rw [List.cons_lt_cons_iff, ih hlength hcs.2 hds.2, ofDigitChars_cons_eq, ofDigitChars_cons_eq,
        hlength, mul_add_lt_mul_add_iff (hlength ▸ ofDigitChars_lt hcs.2) (ofDigitChars_lt hds.2),
        hlt, heq]

/-- Numbers that fill one width are ordered like their texts. -/
theorem padded_lt_padded_iff {width m n : Nat} (hwidth : 0 < width) (hm : m < 10 ^ width)
    (hn : n < 10 ^ width) : padded width m < padded width n ↔ m < n := by
  have hlength : (padded width m).length = (padded width n).length :=
    (length_padded hwidth hm).trans (length_padded hwidth hn).symm
  rw [digits_lt_iff hlength (fun _ => isDigit_of_mem_padded) (fun _ => isDigit_of_mem_padded),
    ofDigitChars_padded, ofDigitChars_padded]

end ScriptClient.Text.Decimal
