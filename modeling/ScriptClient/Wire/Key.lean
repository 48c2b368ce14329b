import ScriptClient.Wire.Varint

set_option autoImplicit false

/-! # Keys and lengths

A field begins with its key, which says the tag and how the value after it is laid out. A
length-delimited value begins with its length. Both come back from what was written, whatever bytes
follow (`Key.read?_write_append`, `readDelimited?_write_append`). -/

namespace ScriptClient.Wire

/-- How the value of a field is laid out. -/
inductive WireType where
  | varint
  | fixed64
  | delimited
  | startGroup
  | endGroup
  | fixed32
  deriving DecidableEq, Repr

namespace WireType

/-- The number of a wire type, the lowest three bits of a key. -/
def code : WireType → Nat
  | varint => 0
  | fixed64 => 1
  | delimited => 2
  | startGroup => 3
  | endGroup => 4
  | fixed32 => 5

/-- The wire type with a number. Six and seven are none. -/
def ofCode? : Nat → Option WireType
  | 0 => some varint
  | 1 => some fixed64
  | 2 => some delimited
  | 3 => some startGroup
  | 4 => some endGroup
  | 5 => some fixed32
  | _ => none

theorem code_lt (w : WireType) : w.code < 8 := by cases w <;> decide

@[simp]
theorem ofCode?_code (w : WireType) : ofCode? w.code = some w := by cases w <;> rfl

end WireType

/-- What stands before the value of a field. -/
structure Key where
  tag : Nat
  wire : WireType
  deriving DecidableEq, Repr

namespace Key

/-- The bytes of a key. -/
def write (k : Key) : List UInt8 :=
  Varint.write (8 * k.tag + k.wire.code)

/-- Reads a key, which has to be below `2 ^ 32` and to have a tag that is not 0. -/
def read? (bytes : List UInt8) : Option (Key × List UInt8) :=
  match Varint.read? bytes with
  | none => none
  | some (n, rest) =>
    if n < UInt32.size ∧ n / 8 ≠ 0 then
      (WireType.ofCode? (n % 8)).map fun wire => (⟨n / 8, wire⟩, rest)
    else none

theorem read?_write_append (k : Key) (rest : List UInt8) (h : 0 < k.tag)
    (h' : k.tag < UInt32.size / 8) : read? (k.write ++ rest) = some (k, rest) := by
  have hc := k.wire.code_lt
  have hbound : 8 * k.tag + k.wire.code < UInt32.size := by
    rw [UInt32.size] at h' ⊢
    omega
  have hbound' : 8 * k.tag + k.wire.code < UInt64.size := Nat.lt_trans hbound (by decide)
  have hdiv : (8 * k.tag + k.wire.code) / 8 = k.tag := by omega
  have hmod : (8 * k.tag + k.wire.code) % 8 = k.wire.code := by omega
  rw [read?, write, Varint.read?_write_append _ _ hbound']
  simp only [hdiv, hmod, WireType.ofCode?_code, Option.map_some]
  rw [if_pos ⟨hbound, by omega⟩]

theorem length_read? {k : Key} {bytes rest : List UInt8} (h : read? bytes = some (k, rest)) :
    rest.length < bytes.length := by
  rw [read?] at h
  split at h
  · simp at h
  next n rest' hr =>
    split at h
    · simp only [Option.map_eq_some_iff, Prod.mk.injEq] at h
      obtain ⟨_, _, _, rfl⟩ := h
      exact Varint.length_read? hr
    · simp at h

end Key

/-- The first `n` bytes and the rest, if there are so many. -/
def takeExact? (n : Nat) (bytes : List UInt8) : Option (List UInt8 × List UInt8) :=
  let (front, rest) := bytes.splitAt n
  if front.length = n then some (front, rest) else none

theorem takeExact?_append (front rest : List UInt8) :
    takeExact? front.length (front ++ rest) = some (front, rest) := by
  simp [takeExact?, List.splitAt_eq]

theorem takeExact?_eq_some_iff {n : Nat} {bytes front rest : List UInt8} :
    takeExact? n bytes = some (front, rest) ↔ bytes = front ++ rest ∧ front.length = n := by
  constructor
  · intro h
    simp only [takeExact?, List.splitAt_eq] at h
    split at h
    next hlen =>
      simp only [Option.some.injEq, Prod.mk.injEq] at h
      obtain ⟨rfl, rfl⟩ := h
      exact ⟨(List.take_append_drop n bytes).symm, hlen⟩
    next => simp at h
  · rintro ⟨rfl, rfl⟩
    exact takeExact?_append front rest

/-- A length and that many bytes. -/
def writeDelimited (content : List UInt8) : List UInt8 :=
  Varint.write content.length ++ content

/-- Reads a length and that many bytes. -/
def readDelimited? (bytes : List UInt8) : Option (List UInt8 × List UInt8) :=
  match Varint.read? bytes with
  | none => none
  | some (n, rest) => takeExact? n rest

theorem readDelimited?_write_append (content rest : List UInt8) (h : content.length < UInt64.size) :
    readDelimited? (writeDelimited content ++ rest) = some (content, rest) := by
  rw [readDelimited?, writeDelimited, List.append_assoc, Varint.read?_write_append _ _ h]
  exact takeExact?_append content rest

theorem length_readDelimited? {bytes content rest : List UInt8}
    (h : readDelimited? bytes = some (content, rest)) : rest.length < bytes.length := by
  rw [readDelimited?] at h
  split at h
  · simp at h
  next n rest' hr =>
    have := Varint.length_read? hr
    obtain ⟨rfl, _⟩ := takeExact?_eq_some_iff.mp h
    simp only [List.length_append] at this
    omega

end ScriptClient.Wire
