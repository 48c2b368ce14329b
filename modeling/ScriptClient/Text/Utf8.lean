set_option autoImplicit false

/-! # UTF-8

The bytes of a text, reading of bytes that have to be a text, and reading of bytes that may not be
one. The last shows `U+FFFD` for each longest run of bytes that begins a character and does not
finish it, and for each byte that begins none. -/

namespace ScriptClient.Text.Utf8

/-- The bytes of a text. -/
def encode (s : String) : List UInt8 :=
  s.toUTF8.data.toList

/-- The text with these bytes, if they are one. -/
def decode? (bytes : List UInt8) : Option String :=
  String.fromUTF8? ⟨bytes.toArray⟩

/-- Every text is read back from its bytes. -/
theorem decode?_encode (s : String) : decode? (encode s) = some s := by
  simp only [decode?, encode, String.fromUTF8?, Array.toArray_toList]
  exact dif_pos s.isValidUTF8

/-- Only the bytes of a text are read as it. -/
theorem encode_of_decode? {bytes : List UInt8} {s : String} (h : decode? bytes = some s) :
    encode s = bytes := by
  simp only [decode?, String.fromUTF8?] at h
  split at h
  · simp only [Option.some.injEq] at h
    subst h
    exact List.toList_toArray
  · simp at h

theorem encode_injective {s t : String} (h : encode s = encode t) : s = t := by
  have hs := decode?_encode s
  rw [h, decode?_encode] at hs
  simpa using hs.symm

@[simp]
theorem encode_append (s t : String) : encode (s ++ t) = encode s ++ encode t := by
  simp [encode]

/-- What a byte that begins a character says: the bits it gives to the code point, and the range
of each byte that has to follow. The narrowed ranges leave out overlong forms, surrogates and
numbers above `U+10FFFF`. -/
def lead? (b : UInt8) : Option (Nat × List (UInt8 × UInt8)) :=
  let more : UInt8 × UInt8 := (0x80, 0xbf)
  if b < 0x80 then some (b.toNat, [])
  else if b < 0xc2 then none
  else if b < 0xe0 then some (b.toNat - 0xc0, [more])
  else if b = 0xe0 then some (0, [(0xa0, 0xbf), more])
  else if b = 0xed then some (0xd, [(0x80, 0x9f), more])
  else if b < 0xf0 then some (b.toNat - 0xe0, [more, more])
  else if b = 0xf0 then some (0, [(0x90, 0xbf), more, more])
  else if b < 0xf4 then some (b.toNat - 0xf0, [more, more, more])
  else if b = 0xf4 then some (4, [(0x80, 0x8f), more, more])
  else none

/-- Reads the bytes that have to follow, as far as they are in their ranges: the code point if all
are, and the bytes after the last one read. -/
def follow (bits : Nat) : List (UInt8 × UInt8) → List UInt8 → Option Nat × List UInt8
  | [], bytes => (some bits, bytes)
  | _ :: _, [] => (none, [])
  | range :: ranges, b :: bytes =>
    if range.1 ≤ b ∧ b ≤ range.2 then follow (64 * bits + (b.toNat - 0x80)) ranges bytes
    else (none, b :: bytes)

/-- The character that begins with byte `b`, or `U+FFFD`, and the bytes after it. -/
def readChar (b : UInt8) (bytes : List UInt8) : Char × List UInt8 :=
  match lead? b with
  | none => ('\ufffd', bytes)
  | some (bits, ranges) =>
    match follow bits ranges bytes with
    | (some n, rest) => (Char.ofNat n, rest)
    | (none, rest) => ('\ufffd', rest)

/-- The first `count` characters of the bytes, read as a text that may be broken. -/
def preview : (count : Nat) → List UInt8 → List Char
  | 0, _ => []
  | _ + 1, [] => []
  | count + 1, b :: bytes =>
    let (c, rest) := readChar b bytes
    c :: preview count rest

theorem length_preview_le (count : Nat) (bytes : List UInt8) :
    (preview count bytes).length ≤ count := by
  induction count generalizing bytes with
  | zero => simp [preview]
  | succ count ih =>
    cases bytes with
    | nil => simp [preview]
    | cons b bytes => simp only [preview, List.length_cons]; exact Nat.succ_le_succ (ih _)

/-- All characters of the bytes, read as a text that may be broken. -/
def lossy (bytes : List UInt8) : List Char :=
  preview bytes.length bytes

end ScriptClient.Text.Utf8
