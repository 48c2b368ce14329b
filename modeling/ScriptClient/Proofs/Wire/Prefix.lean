import ScriptClient.Wire.Message

set_option autoImplicit false

/-! # Reading from the front

A reader looks at the bytes it takes and at no others: what it reads from the front of some bytes it
also reads when more bytes follow, and it leaves those alone (`skip_append`, and `Field.Frontal` for
the fields of a message). So a message is merged from two byte strings one after the other
(`merge_append`). The fuel of the readers that recurse over bytes makes no difference if it is not
less than the number of bytes (`skip_fuel`, `mergeFields_fuel`). -/

namespace ScriptClient.Wire

/-! ## Numbers, keys and lengths -/

theorem Varint.readWithin_append {budget n : Nat} {bytes rest : List UInt8} (more : List UInt8)
    (h : readWithin budget bytes = some (n, rest)) :
    readWithin budget (bytes ++ more) = some (n, rest ++ more) := by
  induction budget generalizing n bytes rest with
  | zero => simp [readWithin] at h
  | succ budget ih =>
    cases bytes with
    | nil => simp [readWithin] at h
    | cons b bytes =>
      rw [List.cons_append]
      unfold readWithin at h ⊢
      by_cases hlast : b.toNat < 128
      · rw [if_pos hlast] at h ⊢
        split at h
        next => cases h
        next hfits =>
          cases h
          rw [if_neg hfits]
      · rw [if_neg hlast] at h ⊢
        split at h
        next n' rest' hr =>
          cases h
          rw [ih hr]
        next => cases h

theorem Varint.read?_append {n : Nat} {bytes rest : List UInt8} (more : List UInt8)
    (h : read? bytes = some (n, rest)) : read? (bytes ++ more) = some (n, rest ++ more) :=
  readWithin_append more h

theorem Key.read?_append {key : Key} {bytes rest : List UInt8} (more : List UInt8)
    (h : read? bytes = some (key, rest)) : read? (bytes ++ more) = some (key, rest ++ more) := by
  unfold read? at h ⊢
  split at h
  next => cases h
  next n rest' hr =>
    rw [Varint.read?_append more hr]
    split at h
    next hkey =>
      obtain ⟨wire, hwire, heq⟩ := Option.map_eq_some_iff.mp h
      cases heq
      show (if n < UInt32.size ∧ n / 8 ≠ 0 then _ else none) = _
      rw [if_pos hkey, hwire]
      rfl
    next => cases h

theorem takeExact?_append_more {n : Nat} {bytes front rest : List UInt8} (more : List UInt8)
    (h : takeExact? n bytes = some (front, rest)) :
    takeExact? n (bytes ++ more) = some (front, rest ++ more) := by
  obtain ⟨rfl, hlength⟩ := takeExact?_eq_some_iff.mp h
  exact takeExact?_eq_some_iff.mpr ⟨List.append_assoc _ _ _, hlength⟩

theorem length_takeExact? {n : Nat} {bytes front rest : List UInt8}
    (h : takeExact? n bytes = some (front, rest)) : rest.length ≤ bytes.length := by
  obtain ⟨rfl, _⟩ := takeExact?_eq_some_iff.mp h
  rw [List.length_append]
  omega

theorem readDelimited?_append {bytes content rest : List UInt8} (more : List UInt8)
    (h : readDelimited? bytes = some (content, rest)) :
    readDelimited? (bytes ++ more) = some (content, rest ++ more) := by
  unfold readDelimited? at h ⊢
  split at h
  next => cases h
  next n rest' hr =>
    rw [Varint.read?_append more hr]
    exact takeExact?_append_more more h

/-! ## Fields that are passed over -/

section

variable {skipField : (fuel : Nat) → Key → List UInt8 → Option (List UInt8)} {tag fuel : Nat}

theorem length_skipGroup
    (hfield : ∀ {fuel key bytes rest}, skipField fuel key bytes = some rest →
      rest.length ≤ bytes.length)
    {bytes rest : List UInt8} (h : skipGroup skipField tag fuel bytes = some rest) :
    rest.length ≤ bytes.length := by
  induction fuel generalizing bytes with
  | zero => cases h
  | succ fuel ih =>
    unfold skipGroup at h
    split at h
    next => cases h
    next key rest₁ hkey =>
      have hshort := Key.length_read? hkey
      split at h
      next hend =>
        split at h
        next => cases h; omega
        next => cases h
      next hgoes =>
        split at h
        next => cases h
        next rest₂ hskip =>
          have hfield' := hfield hskip
          have hrest := ih h
          omega

theorem skipGroup_append {bytes rest : List UInt8} (more : List UInt8)
    (hfield : ∀ {fuel key bytes rest}, skipField fuel key bytes = some rest →
      skipField fuel key (bytes ++ more) = some (rest ++ more))
    (h : skipGroup skipField tag fuel bytes = some rest) :
    skipGroup skipField tag fuel (bytes ++ more) = some (rest ++ more) := by
  induction fuel generalizing bytes with
  | zero => cases h
  | succ fuel ih =>
    unfold skipGroup at h ⊢
    split at h
    next => cases h
    next key rest₁ hkey =>
      rw [Key.read?_append more hkey]
      split at h
      next hend =>
        split at h
        next htag =>
          cases h
          simp only [hend, htag, if_true]
        next => cases h
      next hgoes =>
        split at h
        next => cases h
        next rest₂ hskip =>
          simp only [hgoes, if_false, hfield hskip]
          exact ih h

theorem skipGroup_nil : skipGroup skipField tag fuel [] = none := by
  cases fuel <;> rfl

/-- The fuel of a group makes no difference if it is enough and that of its fields makes none. -/
theorem skipGroup_fuel
    (hlength : ∀ {fuel key bytes rest}, skipField fuel key bytes = some rest →
      rest.length ≤ bytes.length)
    (hfield : ∀ {fuel fuel' key bytes}, bytes.length ≤ fuel → bytes.length ≤ fuel' →
      skipField fuel key bytes = skipField fuel' key bytes)
    {fuel' : Nat} {bytes : List UInt8} (h : bytes.length ≤ fuel) (h' : bytes.length ≤ fuel') :
    skipGroup skipField tag fuel bytes = skipGroup skipField tag fuel' bytes := by
  induction fuel generalizing fuel' bytes with
  | zero =>
    have hnil : bytes = [] := List.eq_nil_of_length_eq_zero (by omega)
    rw [hnil, skipGroup_nil, skipGroup_nil]
  | succ fuel ih =>
    cases fuel' with
    | zero =>
      have hnil : bytes = [] := List.eq_nil_of_length_eq_zero (by omega)
      rw [hnil, skipGroup_nil, skipGroup_nil]
    | succ fuel' =>
      rw [skipGroup, skipGroup]
      cases hkey : Key.read? bytes with
      | none => rfl
      | some read =>
        obtain ⟨key, rest₁⟩ := read
        have hshort := Key.length_read? hkey
        show (if key.wire = .endGroup then _ else _) = (if key.wire = .endGroup then _ else _)
        -- what is left after a field is shorter by its key, so the fuel is still enough
        by_cases hend : key.wire = .endGroup
        · rw [if_pos hend, if_pos hend]
        · have hsame : skipField fuel key rest₁ = skipField fuel' key rest₁ :=
            hfield (by omega) (by omega)
          rw [if_neg hend, if_neg hend, hsame]
          cases hskip : skipField fuel' key rest₁ with
          | none => rfl
          | some rest₂ =>
            have hrest := hlength hskip
            exact ih (by omega) (by omega)

end

theorem length_skip {budget fuel : Nat} {key : Key} {bytes rest : List UInt8}
    (h : skip budget fuel key bytes = some rest) : rest.length ≤ bytes.length := by
  induction budget generalizing fuel key bytes rest with
  | zero => cases h
  | succ budget ih =>
    unfold skip at h
    split at h
    next =>
      obtain ⟨⟨n, rest'⟩, hr, rfl⟩ := Option.map_eq_some_iff.mp h
      exact Nat.le_of_lt (Varint.length_read? hr)
    next =>
      obtain ⟨⟨front, rest'⟩, hr, rfl⟩ := Option.map_eq_some_iff.mp h
      exact length_takeExact? hr
    next =>
      obtain ⟨⟨content, rest'⟩, hr, rfl⟩ := Option.map_eq_some_iff.mp h
      exact Nat.le_of_lt (length_readDelimited? hr)
    next => exact length_skipGroup ih h
    next => cases h
    next =>
      obtain ⟨⟨front, rest'⟩, hr, rfl⟩ := Option.map_eq_some_iff.mp h
      exact length_takeExact? hr

/-- What is passed over does not depend on the bytes after it. -/
theorem skip_append {budget fuel : Nat} {key : Key} {bytes rest : List UInt8} (more : List UInt8)
    (h : skip budget fuel key bytes = some rest) :
    skip budget fuel key (bytes ++ more) = some (rest ++ more) := by
  induction budget generalizing fuel key bytes rest with
  | zero => cases h
  | succ budget ih =>
    unfold skip at h ⊢
    split at h
    next =>
      obtain ⟨⟨n, rest'⟩, hr, rfl⟩ := Option.map_eq_some_iff.mp h
      rw [Varint.read?_append more hr]
      rfl
    next =>
      obtain ⟨⟨front, rest'⟩, hr, rfl⟩ := Option.map_eq_some_iff.mp h
      rw [takeExact?_append_more more hr]
      rfl
    next =>
      obtain ⟨⟨content, rest'⟩, hr, rfl⟩ := Option.map_eq_some_iff.mp h
      rw [readDelimited?_append more hr]
      rfl
    next => exact skipGroup_append more ih h
    next => cases h
    next =>
      obtain ⟨⟨front, rest'⟩, hr, rfl⟩ := Option.map_eq_some_iff.mp h
      rw [takeExact?_append_more more hr]
      rfl

/-- The fuel makes no difference if it is enough. -/
theorem skip_fuel {budget fuel fuel' : Nat} {key : Key} {bytes : List UInt8}
    (h : bytes.length ≤ fuel) (h' : bytes.length ≤ fuel') :
    skip budget fuel key bytes = skip budget fuel' key bytes := by
  induction budget generalizing fuel fuel' key bytes with
  | zero => rfl
  | succ budget ih =>
    unfold skip
    split
    next => rfl
    next => rfl
    next => rfl
    next =>
      refine skipGroup_fuel ?_ ?_ h h'
      · exact length_skip
      · exact ih
    next => rfl
    next => rfl

/-! ## Fields that are merged -/

/-- A field whose reader looks at the bytes it takes and at no others. -/
structure Field.Frontal {M : Type} (field : Field M) : Prop where
  read_append : ∀ {budget wire m bytes m' rest} (more : List UInt8),
    field.read budget wire m bytes = some (m', rest) →
      field.read budget wire m (bytes ++ more) = some (m', rest ++ more)
  length_read : ∀ {budget wire m bytes m' rest},
    field.read budget wire m bytes = some (m', rest) → rest.length ≤ bytes.length

section

variable {M : Type} {fields : List (Field M)} (hfields : ∀ field ∈ fields, field.Frontal)
  {budget : Nat}

include hfields

/-- The fuel makes no difference if it is enough. -/
theorem mergeFields_fuel {fuel fuel' : Nat} {m : M} {bytes : List UInt8} (h : bytes.length ≤ fuel)
    (h' : bytes.length ≤ fuel') :
    mergeFields fields budget fuel m bytes = mergeFields fields budget fuel' m bytes := by
  induction fuel generalizing fuel' m bytes with
  | zero =>
    have hnil : bytes = [] := List.eq_nil_of_length_eq_zero (by omega)
    rw [hnil, mergeFields, mergeFields]
  | succ fuel ih =>
    match bytes, fuel' with
    | [], _ => rw [mergeFields, mergeFields]
    | b :: bytes, fuel' + 1 =>
      rw [mergeFields, mergeFields]
      cases hkey : Key.read? (b :: bytes) with
      | none => rfl
      | some read =>
        obtain ⟨key, rest⟩ := read
        have hshort := Key.length_read? hkey
        simp only
        split
        next field hfind =>
          split
          next => rfl
          next m' rest' hread =>
            have hrest := (hfields field (List.mem_of_find?_eq_some hfind)).length_read hread
            exact ih (by omega) (by omega)
        next =>
          have hsame : skip budget fuel key rest = skip budget fuel' key rest :=
            skip_fuel (by omega) (by omega)
          rw [hsame]
          split
          next => rfl
          next rest' hskip =>
            have hrest := length_skip hskip
            exact ih (by omega) (by omega)

end

section

variable {M : Type} [Message M] (hfields : ∀ field ∈ Message.fields (M := M), field.Frontal)
  {budget : Nat}

include hfields

/-- Merging takes one field after the other. -/
theorem merge_of_key {m : M} {key : Key} {bytes rest : List UInt8}
    (h : Key.read? bytes = some (key, rest)) :
    merge budget m bytes =
      match (Message.fields (M := M)).find? (·.tag = key.tag) with
      | some field =>
        (field.read budget key.wire m rest).bind fun (m', rest') => merge budget m' rest'
      | none => (skip budget rest.length key rest).bind fun rest' => merge budget m rest' := by
  match bytes, h with
  | [], h => cases h
  | b :: bytes, h =>
    have hshort : rest.length ≤ bytes.length := Nat.le_of_lt_succ (Key.length_read? h)
    rw [merge, List.length_cons, mergeFields, h]
    simp only
    cases hfind : (Message.fields (M := M)).find? (·.tag = key.tag) with
    | some field =>
      simp only
      cases hread : field.read budget key.wire m rest with
      | none => rfl
      | some read =>
        have hrest := (hfields field (List.mem_of_find?_eq_some hfind)).length_read hread
        exact mergeFields_fuel hfields (by omega) (Nat.le_refl _)
    | none =>
      have hsame : skip budget bytes.length key rest = skip budget rest.length key rest :=
        skip_fuel hshort (Nat.le_refl _)
      simp only [hsame]
      cases hskip : skip budget rest.length key rest with
      | none => rfl
      | some rest' =>
        have hrest := length_skip hskip
        exact mergeFields_fuel hfields (by omega) (Nat.le_refl _)

/-- Bytes that are merged can be followed by other bytes that are merged. -/
theorem merge_append {m x : M} {bytes : List UInt8} (more : List UInt8)
    (h : merge budget m bytes = some x) :
    merge budget m (bytes ++ more) = merge budget x more := by
  -- each field takes at least the byte of its key, so what is left is shorter
  induction hn : bytes.length using Nat.strongRecOn generalizing m bytes with
  | ind n ih =>
    cases hkey : Key.read? bytes with
    | none =>
      cases bytes with
      | nil =>
        cases h
        rfl
      | cons b bytes =>
        rw [merge, List.length_cons, mergeFields, hkey] at h
        cases h
    | some read =>
      obtain ⟨key, rest⟩ := read
      have hshort := Key.length_read? hkey
      rw [merge_of_key hfields hkey] at h
      rw [merge_of_key hfields (Key.read?_append more hkey)]
      cases hfind : (Message.fields (M := M)).find? (·.tag = key.tag) with
      | some field =>
        have hfrontal := hfields field (List.mem_of_find?_eq_some hfind)
        rw [hfind] at h
        obtain ⟨⟨m', rest'⟩, hread, hmerge⟩ := Option.bind_eq_some_iff.mp h
        have hrest := hfrontal.length_read hread
        simp only [hfrontal.read_append more hread, Option.bind_some]
        exact ih rest'.length (by omega) hmerge rfl
      | none =>
        rw [hfind] at h
        obtain ⟨rest', hskip, hmerge⟩ := Option.bind_eq_some_iff.mp h
        have hrest := length_skip hskip
        -- with more bytes there is more fuel, which makes no difference
        have henough : skip budget (rest ++ more).length key rest = some rest' := by
          rw [← hskip]
          exact skip_fuel (by rw [List.length_append]; omega) (Nat.le_refl _)
        simp only [skip_append more henough, Option.bind_some]
        exact ih rest'.length (by omega) hmerge rfl

end

end ScriptClient.Wire
