set_option autoImplicit false

/-! # Character ranges

Properties of characters that have no short description are tables of inclusive ranges of code
points. This module reads such a table. -/

namespace ScriptClient.Text

/-- Whether the code point of `c` lies in one of the inclusive ranges of the table. -/
def inRanges (table : Array (Nat × Nat)) (c : Char) : Bool :=
  table.any fun range => range.1 ≤ c.toNat && c.toNat ≤ range.2

theorem inRanges_iff (table : Array (Nat × Nat)) (c : Char) :
    inRanges table c = true ↔ ∃ range ∈ table, range.1 ≤ c.toNat ∧ c.toNat ≤ range.2 := by
  rw [inRanges, Array.any_eq_true']
  simp

end ScriptClient.Text
