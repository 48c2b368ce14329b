import ScriptClient.Proofs.Text.Utf8
import ScriptClient.Rpc.Metadata

set_option autoImplicit false

/-! # Entries of metadata

All values under a key (`Metadata.valuesOf`), and what inserting does to them: the key has the new
value alone, and the values of all other keys stay (`valuesOf_insert`). A text of visible ASCII
characters may always be a value (`isValue_encode`). -/

namespace ScriptClient

namespace Rpc.Metadata

/-- All values under a key, in their order. -/
def valuesOf (m : Metadata) (key : String) : List (List UInt8) :=
  (m.entries.filter (·.1 = key)).map (·.2)

/-- A text of visible characters may be a value. -/
theorem isValue_encode {s : String} (h : ∀ c ∈ s.toList, 0x20 ≤ c.toNat ∧ c.toNat < 0x7f) :
    isValue (Text.Utf8.encode s) = true := by
  rw [Text.Utf8.encode_of_ascii fun c hc => Nat.lt_trans (h c hc).2 (by decide), isValue,
    List.all_map, List.all_eq_true]
  intro c hc
  obtain ⟨hlow, hhigh⟩ := h c hc
  have hbyte := Text.Utf8.toNat_toUInt8 (Nat.lt_trans hhigh (by decide))
  have hcontrol : 0x20 ≤ c.toUInt8 := UInt8.le_iff_toNat_le.mpr (hbyte ▸ hlow)
  have hdelete : c.toUInt8 ≠ 0x7f := by
    intro heq
    rw [heq] at hbyte
    exact Nat.ne_of_lt hhigh hbyte.symm
  simp [hcontrol, hdelete]

theorem insertText_of_visible (m : Metadata) (key : String) {s : String}
    (h : ∀ c ∈ s.toList, 0x20 ≤ c.toNat ∧ c.toNat < 0x7f) :
    m.insertText key s = m.insert key (Text.Utf8.encode s) := by
  rw [insertText]
  exact if_pos (isValue_encode h)

/-- **Inserting an entry.** Entries under other keys stay as they are, in their order. -/
theorem filter_insertValue {p : String → Bool} {key : String} (hp : p key = false)
    (value : List UInt8) (entries : List (String × List UInt8)) :
    (insertValue key value entries).filter (fun e => p e.1) = entries.filter fun e => p e.1 := by
  induction entries with
  | nil => simp [insertValue, hp]
  | cons e rest ih =>
    rw [insertValue]
    by_cases he : e.1 = key
    · -- what is dropped has the key `key`, so it does not satisfy `p`
      have hrest : (rest.filter (·.1 ≠ key)).filter (fun e => p e.1) =
          rest.filter fun e => p e.1 := by
        rw [List.filter_filter]
        refine List.filter_congr fun f _ => ?_
        by_cases hf : f.1 = key <;> simp [hf, hp]
      rw [if_pos he, List.filter_cons, List.filter_cons, hrest]
      simp [he, hp]
    · rw [if_neg he, List.filter_cons, List.filter_cons, ih]

theorem filter_key_insertValue (key : String) (value : List UInt8)
    (entries : List (String × List UInt8)) :
    (insertValue key value entries).filter (·.1 = key) = [(key, value)] := by
  induction entries with
  | nil => simp [insertValue]
  | cons e rest ih =>
    rw [insertValue]
    by_cases he : e.1 = key
    · rw [if_pos he]
      simp [List.filter_filter]
    · rw [if_neg he, List.filter_cons, ih]
      simp [he]

/-- **Inserting a value.** The key has the value alone, and all other keys have the values they
had. -/
theorem valuesOf_insert (m : Metadata) (key key' : String) (value : List UInt8) :
    (m.insert key value).valuesOf key' = if key' = key then [value] else m.valuesOf key' := by
  by_cases h : key' = key
  · subst h
    rw [if_pos rfl, valuesOf, insert, filter_key_insertValue]
    rfl
  · have hkey : decide (key = key') = false := decide_eq_false (Ne.symm h)
    rw [if_neg h, valuesOf, insert, filter_insertValue (p := fun k => decide (k = key')) hkey]
    rfl

/-- All entries under other keys, in their order. -/
def others (m : Metadata) (key : String) : List (String × List UInt8) :=
  m.entries.filter (·.1 ≠ key)

theorem others_insert (m : Metadata) (key : String) (value : List UInt8) :
    (m.insert key value).others key = m.others key := by
  have hkey : decide (key ≠ key) = false := decide_eq_false (not_not_intro rfl)
  exact filter_insertValue (p := fun k => decide (k ≠ key)) hkey value m.entries

end Rpc.Metadata

end ScriptClient
