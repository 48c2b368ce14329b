set_option autoImplicit false

/-! # Variable-length numbers

A number as bytes of seven bits each, lowest bits first; every byte but the last has its high bit
set. Only numbers below `2 ^ 64` are read: at most ten bytes, the tenth at most 1. Reading what was
written gives the number back and leaves the bytes after it (`read?_write_append`). -/

namespace ScriptClient.Wire.Varint

/-- The bytes of a number. -/
def write (n : Nat) : List UInt8 :=
  if n < 128 then [UInt8.ofNat n] else UInt8.ofNat (n % 128 + 128) :: write (n / 128)
termination_by n
decreasing_by omega

/-- Reads a number of at most `budget` bytes from the front, and gives the bytes after it. The last
byte that the budget allows may only be 0 or 1. -/
def readWithin : (budget : Nat) → List UInt8 → Option (Nat × List UInt8)
  | 0, _ => none
  | _ + 1, [] => none
  | budget + 1, b :: bytes =>
    if b.toNat < 128 then
      if budget = 0 ∧ 1 < b.toNat then none else some (b.toNat, bytes)
    else
      match readWithin budget bytes with
      | some (n, rest) => some (b.toNat - 128 + 128 * n, rest)
      | none => none

/-- Reads a number below `2 ^ 64` from the front, and gives the bytes after it. -/
def read? (bytes : List UInt8) : Option (Nat × List UInt8) :=
  readWithin 10 bytes

/-- The first number that does not fit in `budget + 1` bytes. -/
def bound : (budget : Nat) → Nat
  | 0 => 2
  | budget + 1 => 128 * bound budget

theorem readWithin_write_append (budget n : Nat) (rest : List UInt8)
    (h : n < bound budget) : readWithin (budget + 1) (write n ++ rest) = some (n, rest) := by
  induction budget generalizing n with
  | zero =>
    rw [bound] at h
    rw [write, if_pos (by omega)]
    have hn : n % 256 = n := by omega
    simp [readWithin, hn]
    omega
  | succ budget ih =>
    rw [write]
    split
    next hlt =>
      have hn : n % 256 = n := by omega
      simp [readWithin, hn, hlt]
    next hge =>
      rw [bound] at h
      have hbyte : (UInt8.ofNat (n % 128 + 128)).toNat = n % 128 + 128 := by
        simp only [UInt8.toNat_ofNat']
        omega
      rw [List.cons_append, readWithin, hbyte, if_neg (by omega), ih (n / 128) (by omega)]
      simp only [Option.some.injEq, Prod.mk.injEq, and_true]
      omega

/-- Reading is the inverse of writing, whatever bytes follow. -/
theorem read?_write_append (n : Nat) (rest : List UInt8) (h : n < UInt64.size) :
    read? (write n ++ rest) = some (n, rest) :=
  readWithin_write_append 9 n rest h

theorem length_readWithin {budget n : Nat} {bytes rest : List UInt8}
    (h : readWithin budget bytes = some (n, rest)) : rest.length < bytes.length := by
  induction budget generalizing n bytes rest with
  | zero => simp [readWithin] at h
  | succ budget ih =>
    cases bytes with
    | nil => simp [readWithin] at h
    | cons b bytes =>
      rw [readWithin] at h
      split at h
      · split at h
        · simp at h
        · simp only [Option.some.injEq, Prod.mk.injEq] at h
          simp [h.2]
      · split at h
        next n' rest' hr =>
          simp only [Option.some.injEq, Prod.mk.injEq] at h
          have := ih hr
          rw [h.2] at this
          exact Nat.lt_succ_of_lt this
        next => simp at h

/-- Reading uses up at least one byte. -/
theorem length_read? {n : Nat} {bytes rest : List UInt8} (h : read? bytes = some (n, rest)) :
    rest.length < bytes.length :=
  length_readWithin h

end ScriptClient.Wire.Varint
