import Mathlib.Data.String.Basic
import ScriptClient.Text.Utf8

set_option autoImplicit false

/-! # Bytes of texts, and texts of bytes

Texts are ordered like their bytes (`encode_lt_encode_iff`), and reading bytes that may be broken
gives every text back from its bytes (`preview_encode`). The first characters that are read depend
on the first bytes alone, four for each (`preview_congr`), and are the first ones of all that can be
read (`take_lossy`). -/

namespace ScriptClient.Text.Utf8

/-! ## Bytes of characters -/

theorem encode_eq_flatMap (s : String) : encode s = s.toList.flatMap String.utf8EncodeChar := by
  rw [encode, String.toUTF8, ← String.utf8Encode_toList, List.utf8Encode, List.data_toByteArray]

theorem toNat_toUInt8 {c : Char} (h : c.toNat < 128) : c.toUInt8.toNat = c.toNat := by
  rw [← Char.toUInt8_val, UInt32.toNat_toUInt8]
  exact Nat.mod_eq_of_lt (Nat.lt_trans h (by decide))

/-- An ASCII character is one byte. -/
theorem encode_of_ascii {s : String} (h : ∀ c ∈ s.toList, c.toNat < 128) :
    encode s = s.toList.map Char.toUInt8 := by
  have hchar : ∀ c ∈ s.toList, String.utf8EncodeChar c = [c.toUInt8] := by
    intro c hc
    have hle : c.val ≤ 127 := UInt32.le_iff_toNat_le.mpr (Nat.le_of_lt_succ (h c hc))
    exact String.utf8EncodeChar_eq_singleton (Char.utf8Size_eq_one_iff.mpr hle)
  rw [encode_eq_flatMap, List.flatMap_def, List.map_congr_left hchar, ← List.flatMap_def,
    List.map_eq_flatMap]

/-- The bytes of the character with number `n`, by the six bits that each byte after the first adds.
No number has two forms, and no form stands for a surrogate or a number that is too large. -/
inductive Spells : Nat → List UInt8 → Prop where
  | one {n : Nat} (h : n < 128) : Spells n [UInt8.ofNat n]
  | two {n a b : Nat} (hn : n = 64 * a + b) (ha : 2 ≤ a ∧ a < 32) (hb : b < 64) :
    Spells n [UInt8.ofNat (a + 192), UInt8.ofNat (b + 128)]
  | three {n a b c : Nat} (hn : n = 64 * (64 * a + b) + c) (ha : a < 16) (hb : b < 64)
    (hlow : a = 0 → 0xa0 ≤ b + 128) (hhigh : a = 13 → b + 128 ≤ 0x9f) (hc : c < 64) :
    Spells n [UInt8.ofNat (a + 224), UInt8.ofNat (b + 128), UInt8.ofNat (c + 128)]
  | four {n a b c d : Nat} (hn : n = 64 * (64 * (64 * a + b) + c) + d) (ha : a < 5) (hb : b < 64)
    (hlow : a = 0 → 0x90 ≤ b + 128) (hhigh : a = 4 → b + 128 ≤ 0x8f) (hc : c < 64) (hd : d < 64) :
    Spells n [UInt8.ofNat (a + 240), UInt8.ofNat (b + 128), UInt8.ofNat (c + 128),
      UInt8.ofNat (d + 128)]

theorem spells_utf8EncodeChar (c : Char) : Spells c.toNat (String.utf8EncodeChar c) := by
  have hvalid : c.val.toNat < 0xd800 ∨ 0xdfff < c.val.toNat ∧ c.val.toNat < 0x110000 := c.valid
  show Spells c.val.toNat _
  rw [String.utf8EncodeChar.eq_1]
  generalize c.val.toNat = n at hvalid
  split
  · exact .one (by omega)
  split
  · exact .two (by omega) (by omega) (by omega)
  split
  · exact .three (by omega) (by omega) (by omega) (by omega) (by omega) (by omega)
  · exact .four (by omega) (by omega) (by omega) (by omega) (by omega) (by omega) (by omega)

/-! ## Order -/

/-- Bytes of a smaller number are smaller, and neither is the front of the other. -/
theorem Spells.append_lt_append {m n : Nat} {x y : List UInt8} (hx : Spells m x) (hy : Spells n y)
    (hlt : m < n) (rest rest' : List UInt8) : x ++ rest < y ++ rest' := by
  -- the first byte tells how many follow, and more follow for larger numbers
  cases hx <;> cases hy <;>
    simp only [List.cons_append, List.nil_append, List.cons_lt_cons_iff, UInt8.lt_iff_toNat_lt,
      ← UInt8.toNat_inj, UInt8.toNat_ofNat'] <;>
    omega

theorem flatMap_lt_flatMap {cs ds : List Char} (h : cs < ds) :
    cs.flatMap String.utf8EncodeChar < ds.flatMap String.utf8EncodeChar := by
  induction h with
  | @nil d ds =>
    obtain ⟨b, bytes, hbytes⟩ := List.exists_cons_of_ne_nil (String.utf8EncodeChar_ne_nil (c := d))
    rw [List.flatMap_nil, List.flatMap_cons, hbytes]
    exact List.nil_lt_cons b _
  | @rel c cs d ds hlt =>
    rw [List.flatMap_cons, List.flatMap_cons]
    exact (spells_utf8EncodeChar c).append_lt_append (spells_utf8EncodeChar d)
      (UInt32.lt_iff_toNat_lt.mp hlt) _ _
  | cons _ ih =>
    rw [List.flatMap_cons, List.flatMap_cons]
    exact List.append_left_lt ih

/-- **Texts are ordered like their bytes.** -/
theorem encode_lt_encode_iff {s t : String} : encode s < encode t ↔ s < t := by
  have hmono : ∀ {s t : String}, s < t → encode s < encode t := by
    intro s t h
    rw [encode_eq_flatMap, encode_eq_flatMap]
    exact flatMap_lt_flatMap (String.lt_iff_toList_lt.mp h)
  refine ⟨fun h => ?_, hmono⟩
  rcases lt_trichotomy s t with hlt | rfl | hgt
  · exact hlt
  · exact absurd h (List.lt_irrefl _)
  · exact absurd h (List.lt_asymm (hmono hgt))

/-! ## Reading the bytes of a character -/

/-- The range of a second byte. It is narrower behind the first and the last of the leads for as
many bytes. -/
def second (low high : UInt8) (last bits : Nat) : UInt8 × UInt8 :=
  (if bits = 0 then low else 0x80, if bits = last then high else 0xbf)

theorem lead?_one {n : Nat} (h : n < 128) : lead? (UInt8.ofNat n) = some (n, []) := by
  have hall : ∀ m : Fin 128, lead? (UInt8.ofNat m.val) = some (m.val, []) := by decide
  exact hall ⟨n, h⟩

theorem lead?_two {bits : Nat} (h : 2 ≤ bits ∧ bits < 32) :
    lead? (UInt8.ofNat (bits + 192)) = some (bits, [(0x80, 0xbf)]) := by
  have hall : ∀ m : Fin 32, 2 ≤ m.val →
      lead? (UInt8.ofNat (m.val + 192)) = some (m.val, [(0x80, 0xbf)]) := by
    decide
  exact hall ⟨bits, h.2⟩ h.1

theorem lead?_three {bits : Nat} (h : bits < 16) :
    lead? (UInt8.ofNat (bits + 224)) = some (bits, [second 0xa0 0x9f 13 bits, (0x80, 0xbf)]) := by
  have hall : ∀ m : Fin 16, lead? (UInt8.ofNat (m.val + 224)) =
      some (m.val, [second 0xa0 0x9f 13 m.val, (0x80, 0xbf)]) := by
    decide
  exact hall ⟨bits, h⟩

theorem lead?_four {bits : Nat} (h : bits < 5) :
    lead? (UInt8.ofNat (bits + 240)) =
      some (bits, [second 0x90 0x8f 4 bits, (0x80, 0xbf), (0x80, 0xbf)]) := by
  have hall : ∀ m : Fin 5, lead? (UInt8.ofNat (m.val + 240)) =
      some (m.val, [second 0x90 0x8f 4 m.val, (0x80, 0xbf), (0x80, 0xbf)]) := by
    decide
  exact hall ⟨bits, h⟩

section

variable (bits : Nat) (ranges : List (UInt8 × UInt8)) (bytes : List UInt8) {n : Nat}

/-- A byte in its range adds six bits. -/
theorem follow_next {range : UInt8 × UInt8} (hlow : range.1.toNat ≤ n + 128)
    (hhigh : n + 128 ≤ range.2.toNat) :
    follow bits (range :: ranges) (UInt8.ofNat (n + 128) :: bytes) =
      follow (64 * bits + n) ranges bytes := by
  have hbyte : (UInt8.ofNat (n + 128)).toNat = n + 128 :=
    UInt8.toNat_ofNat_of_lt' (Nat.lt_of_le_of_lt hhigh range.2.toNat_lt)
  have hrange : range.1 ≤ UInt8.ofNat (n + 128) ∧ UInt8.ofNat (n + 128) ≤ range.2 := by
    rw [UInt8.le_iff_toNat_le, UInt8.le_iff_toNat_le, hbyte]
    exact ⟨hlow, hhigh⟩
  rw [follow, if_pos hrange, hbyte, Nat.add_sub_cancel]

theorem follow_more (h : n < 64) :
    follow bits ((0x80, 0xbf) :: ranges) (UInt8.ofNat (n + 128) :: bytes) =
      follow (64 * bits + n) ranges bytes :=
  follow_next bits ranges bytes (Nat.le_add_left 128 n)
    (Nat.le_of_lt_succ (Nat.add_lt_add_right h 128))

theorem follow_second {low high : UInt8} {last : Nat} (h : n < 64)
    (hlow : bits = 0 → low.toNat ≤ n + 128) (hhigh : bits = last → n + 128 ≤ high.toNat) :
    follow bits (second low high last bits :: ranges) (UInt8.ofNat (n + 128) :: bytes) =
      follow (64 * bits + n) ranges bytes := by
  refine follow_next bits ranges bytes ?_ ?_
  · show (if bits = 0 then low else 0x80).toNat ≤ n + 128
    split
    next hbits => exact hlow hbits
    next => exact Nat.le_add_left 128 n
  · show n + 128 ≤ (if bits = last then high else 0xbf).toNat
    split
    next hbits => exact hhigh hbits
    next => exact Nat.le_of_lt_succ (Nat.add_lt_add_right h 128)

end

theorem readChar_of_no_lead {b : UInt8} (h : lead? b = none) (bytes : List UInt8) :
    readChar b bytes = ('\ufffd', bytes) := by
  rw [readChar, h]

theorem readChar_of_lead? {b : UInt8} {bits : Nat} {ranges : List (UInt8 × UInt8)}
    (h : lead? b = some (bits, ranges)) (bytes : List UInt8) :
    readChar b bytes =
      ((follow bits ranges bytes).1.elim '\ufffd' Char.ofNat, (follow bits ranges bytes).2) := by
  rw [readChar, h]
  dsimp only
  rcases follow bits ranges bytes with ⟨_ | n, rest⟩ <;> rfl

theorem preview_cons (count : Nat) (b : UInt8) (bytes : List UInt8) :
    preview (count + 1) (b :: bytes) =
      (readChar b bytes).1 :: preview count (readChar b bytes).2 :=
  rfl

/-- A number is read back from the bytes that spell it. -/
theorem Spells.exists_readChar {n : Nat} {spelled : List UInt8} (h : Spells n spelled) :
    ∃ b bytes, spelled = b :: bytes ∧
      ∀ rest, readChar b (bytes ++ rest) = (Char.ofNat n, rest) := by
  -- one step of following for each byte after the first
  cases h with
  | one h =>
    refine ⟨_, _, rfl, fun rest => ?_⟩
    rw [readChar_of_lead? (lead?_one h)]
    rfl
  | two hn ha hb =>
    refine ⟨_, _, rfl, fun rest => ?_⟩
    rw [readChar_of_lead? (lead?_two ha), List.cons_append, follow_more _ _ _ hb, hn]
    rfl
  | three hn ha hb hlow hhigh hc =>
    refine ⟨_, _, rfl, fun rest => ?_⟩
    rw [readChar_of_lead? (lead?_three ha), List.cons_append, follow_second _ _ _ hb hlow hhigh,
      List.cons_append, follow_more _ _ _ hc, hn]
    rfl
  | four hn ha hb hlow hhigh hc hd =>
    refine ⟨_, _, rfl, fun rest => ?_⟩
    rw [readChar_of_lead? (lead?_four ha), List.cons_append, follow_second _ _ _ hb hlow hhigh,
      List.cons_append, follow_more _ _ _ hc, List.cons_append, follow_more _ _ _ hd, hn]
    rfl

/-- **Reading the bytes of a text** gives its characters, as many as are asked for. -/
theorem preview_encode (count : Nat) (s : String) :
    preview count (encode s) = s.toList.take count := by
  rw [encode_eq_flatMap]
  generalize s.toList = cs
  induction count generalizing cs with
  | zero => rfl
  | succ count ih =>
    cases cs with
    | nil => rfl
    | cons c cs =>
      obtain ⟨b, bytes, hbytes, hread⟩ := (spells_utf8EncodeChar c).exists_readChar
      rw [List.flatMap_cons, hbytes, List.cons_append, preview_cons, hread, Char.ofNat_toNat, ih,
        List.take_succ_cons]

/-! ## Reading the first bytes -/

theorem take_eq_take_of_le {m n : Nat} {x y : List UInt8} (hle : m ≤ n)
    (h : x.take n = y.take n) : x.take m = y.take m := by
  rw [← Nat.min_eq_left hle, ← List.take_take, h, List.take_take]

theorem length_lead? {b : UInt8} {bits : Nat} {ranges : List (UInt8 × UInt8)}
    (h : lead? b = some (bits, ranges)) : ranges.length ≤ 3 := by
  unfold lead? at h
  grind

/-- What follows a first byte is read from at most as many bytes as there are ranges. -/
theorem follow_congr {bits count : Nat} {ranges : List (UInt8 × UInt8)} {x y : List UInt8}
    (h : x.take (count + ranges.length) = y.take (count + ranges.length)) :
    (follow bits ranges x).1 = (follow bits ranges y).1 ∧
      (follow bits ranges x).2.take count = (follow bits ranges y).2.take count := by
  induction ranges generalizing bits x y with
  | nil => exact ⟨rfl, h⟩
  | cons range ranges ih =>
    rw [List.length_cons, ← Nat.add_assoc] at h
    cases x with
    | nil =>
      cases y with
      | nil => exact ⟨rfl, rfl⟩
      | cons b y => cases h
    | cons a x =>
      cases y with
      | nil => cases h
      | cons b y =>
        have hcut := take_eq_take_of_le (by omega : count ≤ count + ranges.length + 1) h
        rw [List.take_succ_cons, List.take_succ_cons, List.cons.injEq] at h
        obtain ⟨rfl, h⟩ := h
        rw [follow, follow]
        split
        next => exact ih h
        next => exact ⟨rfl, hcut⟩

/-- A character is read from at most four bytes. -/
theorem readChar_congr (b : UInt8) {count : Nat} {x y : List UInt8}
    (h : x.take (count + 3) = y.take (count + 3)) :
    (readChar b x).1 = (readChar b y).1 ∧
      (readChar b x).2.take count = (readChar b y).2.take count := by
  cases hlead : lead? b with
  | none =>
    rw [readChar_of_no_lead hlead, readChar_of_no_lead hlead]
    exact ⟨rfl, take_eq_take_of_le (Nat.le_add_right count 3) h⟩
  | some lead =>
    have hfew := Nat.add_le_add_left (length_lead? hlead) count
    obtain ⟨hread, hrest⟩ := follow_congr (take_eq_take_of_le hfew h)
    rw [readChar_of_lead? hlead, readChar_of_lead? hlead, hread]
    exact ⟨rfl, hrest⟩

/-- **The first characters** depend on the first bytes alone, four for each. -/
theorem preview_congr {count : Nat} {x y : List UInt8}
    (h : x.take (4 * count) = y.take (4 * count)) : preview count x = preview count y := by
  induction count generalizing x y with
  | zero => rfl
  | succ count ih =>
    cases x with
    | nil =>
      cases y with
      | nil => rfl
      | cons b y => cases h
    | cons a x =>
      cases y with
      | nil => cases h
      | cons b y =>
        rw [Nat.mul_succ, List.take_succ_cons, List.take_succ_cons, List.cons.injEq] at h
        obtain ⟨rfl, h⟩ := h
        obtain ⟨hread, hrest⟩ := readChar_congr a h
        rw [preview_cons, preview_cons, hread, ih hrest]

theorem preview_take (count : Nat) (bytes : List UInt8) :
    preview count (bytes.take (4 * count)) = preview count bytes :=
  preview_congr (by rw [List.take_take, Nat.min_self])

/-! ## Reading all bytes -/

theorem length_follow_le (bits : Nat) (ranges : List (UInt8 × UInt8)) (bytes : List UInt8) :
    (follow bits ranges bytes).2.length ≤ bytes.length := by
  induction ranges generalizing bits bytes with
  | nil => exact Nat.le_refl _
  | cons range ranges ih =>
    cases bytes with
    | nil => exact Nat.le_refl _
    | cons b bytes =>
      rw [follow]
      split
      next => exact Nat.le_succ_of_le (ih _ bytes)
      next => exact Nat.le_refl _

theorem length_readChar_le (b : UInt8) (bytes : List UInt8) :
    (readChar b bytes).2.length ≤ bytes.length := by
  cases hlead : lead? b with
  | none => simp only [readChar_of_no_lead hlead, Nat.le_refl]
  | some lead =>
    rw [readChar_of_lead? hlead]
    exact length_follow_le _ _ _

/-- Every character takes a byte, so more characters than bytes are as good as all. -/
theorem take_preview {count total : Nat} {bytes : List UInt8} (h : bytes.length ≤ total) :
    (preview total bytes).take count = preview count bytes := by
  induction count generalizing total bytes with
  | zero => rw [List.take_zero, preview]
  | succ count ih =>
    cases bytes with
    | nil => cases total <;> rfl
    | cons b bytes =>
      obtain ⟨total, rfl⟩ := Nat.exists_eq_add_one.mpr (Nat.zero_lt_of_lt h)
      have hrest : (readChar b bytes).2.length ≤ total :=
        Nat.le_trans (length_readChar_le b bytes) (Nat.le_of_succ_le_succ h)
      rw [preview_cons, preview_cons, List.take_succ_cons, ih hrest]

theorem take_lossy (count : Nat) (bytes : List UInt8) :
    (lossy bytes).take count = preview count bytes :=
  take_preview (Nat.le_refl _)

end ScriptClient.Text.Utf8
