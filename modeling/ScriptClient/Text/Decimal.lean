set_option autoImplicit false

/-! # Decimal numbers

Reading of unsigned numbers below `2 ^ 64`, and writing with leading zeros. -/

namespace ScriptClient.Text.Decimal

/-- The number that the digits stand for, most significant first. -/
def ofDigits (cs : List Char) : Nat :=
  cs.foldl (fun n c => 10 * n + (c.toNat - 48)) 0

/-- Reads ASCII digits after an optional `+`. There has to be a digit, and the number has to be
below `2 ^ 64`. -/
def unsigned? (cs : List Char) : Option Nat :=
  let ds := if cs.head? = some '+' then cs.tail else cs
  if ds ≠ [] ∧ ds.all Char.isDigit ∧ ofDigits ds < UInt64.size then some (ofDigits ds) else none

theorem unsigned?_lt (cs : List Char) (n : Nat) (h : unsigned? cs = some n) : n < UInt64.size := by
  rw [unsigned?] at h
  grind

/-- The digits of `n`, with leading zeros up to `width`. -/
def padded (width n : Nat) : List Char :=
  let ds := Nat.toDigits 10 n
  List.replicate (width - ds.length) '0' ++ ds

theorem le_length_padded (width n : Nat) : width ≤ (padded width n).length := by
  simp only [padded, List.length_append, List.length_replicate]
  omega

end ScriptClient.Text.Decimal
