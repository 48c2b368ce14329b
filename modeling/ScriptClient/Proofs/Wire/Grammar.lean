import ScriptClient.Proofs.Wire.Prefix

set_option autoImplicit false

/-! # The grammar of fields

Which bytes are a number, a key, the value of a field, or fields one after the other, apart from any
reader. Readers take from the front exactly the bytes that the grammar names (`skip_eq_some_iff` for
values), so no bytes begin with two different values of a field (`Value.eq_of_append_eq`). -/

namespace ScriptClient.Wire

/-! ## Numbers, keys and lengths -/

/-- The bytes spell a number: so many that `budget` is not used up before the last one, which is 0
or 1 if it is used up then. -/
inductive Varint.Spells : (budget : Nat) → List UInt8 → Nat → Prop where
  | last {budget : Nat} {b : UInt8} (hlast : b.toNat < 128) (hfits : budget = 0 → b.toNat ≤ 1) :
    Spells budget [b] b.toNat
  | more {budget n : Nat} {b : UInt8} {bytes : List UInt8} (hmore : 128 ≤ b.toNat)
    (hrest : Spells budget bytes n) : Spells (budget + 1) (b :: bytes) (b.toNat - 128 + 128 * n)

theorem Varint.Spells.readWithin_append {budget n : Nat} {front : List UInt8}
    (h : Spells budget front n) (rest : List UInt8) :
    readWithin (budget + 1) (front ++ rest) = some (n, rest) := by
  induction h with
  | last hlast hfits =>
    rw [List.singleton_append, readWithin, if_pos hlast, if_neg]
    rintro ⟨hzero, hlarge⟩
    exact absurd (hfits hzero) (by omega)
  | more hmore _ ih =>
    rw [List.cons_append, readWithin, if_neg (by omega), ih]

theorem Varint.spells_of_readWithin {budget n : Nat} {bytes rest : List UInt8}
    (h : readWithin (budget + 1) bytes = some (n, rest)) :
    ∃ front, bytes = front ++ rest ∧ Spells budget front n := by
  induction budget generalizing n bytes rest with
  | zero =>
    cases bytes with
    | nil => cases h
    | cons b bytes =>
      rw [readWithin] at h
      split at h
      next hlast =>
        split at h
        next => cases h
        next hfits =>
          cases h
          exact ⟨[b], rfl, .last hlast (by omega)⟩
      next => cases h
  | succ budget ih =>
    cases bytes with
    | nil => cases h
    | cons b bytes =>
      rw [readWithin] at h
      split at h
      next hlast =>
        rw [if_neg (by omega)] at h
        cases h
        exact ⟨[b], rfl, .last hlast (by omega)⟩
      next hmore =>
        split at h
        next n' rest' hr =>
          cases h
          obtain ⟨front, rfl, hfront⟩ := ih hr
          exact ⟨b :: front, rfl, .more (by omega) hfront⟩
        next => cases h

theorem Varint.Spells.read?_append {n : Nat} {front : List UInt8} (h : Spells 9 front n)
    (rest : List UInt8) : read? (front ++ rest) = some (n, rest) :=
  h.readWithin_append rest

/-- A number is read from the front if it is spelled there with at most ten bytes. -/
theorem Varint.read?_eq_some_iff {n : Nat} {bytes rest : List UInt8} :
    read? bytes = some (n, rest) ↔ ∃ front, bytes = front ++ rest ∧ Spells 9 front n := by
  constructor
  · exact spells_of_readWithin
  · rintro ⟨front, rfl, h⟩
    exact h.read?_append rest

/-- The bytes spell a key. -/
structure Key.Spells (key : Key) (front : List UInt8) : Prop where
  number : Varint.Spells 9 front (8 * key.tag + key.wire.code)
  tag_pos : 0 < key.tag
  tag_lt : key.tag < UInt32.size / 8

theorem WireType.eq_code_of_ofCode? {n : Nat} {wire : WireType} (h : ofCode? n = some wire) :
    n = wire.code := by
  unfold ofCode? at h
  split at h <;> cases h <;> rfl

theorem Key.Spells.read?_append {key : Key} {front : List UInt8} (h : key.Spells front)
    (rest : List UInt8) : read? (front ++ rest) = some (key, rest) := by
  obtain ⟨hnumber, hpos, hlt⟩ := h
  have hcode := key.wire.code_lt
  have hsize : UInt32.size = 8 * (UInt32.size / 8) := rfl
  have hdiv : (8 * key.tag + key.wire.code) / 8 = key.tag := by omega
  have hmod : (8 * key.tag + key.wire.code) % 8 = key.wire.code := by omega
  rw [read?, hnumber.read?_append rest]
  simp only [hdiv, hmod, WireType.ofCode?_code, Option.map_some]
  rw [if_pos ⟨by omega, by omega⟩]

theorem Key.spells_of_read? {key : Key} {bytes rest : List UInt8}
    (h : read? bytes = some (key, rest)) : ∃ front, bytes = front ++ rest ∧ key.Spells front := by
  have hsize : UInt32.size = 8 * (UInt32.size / 8) := rfl
  rw [read?] at h
  split at h
  next => cases h
  next n rest' hr =>
    split at h
    next hn =>
      obtain ⟨wire, hwire, heq⟩ := Option.map_eq_some_iff.mp h
      cases heq
      obtain ⟨front, hfront, hspells⟩ := Varint.read?_eq_some_iff.mp hr
      have hlow := WireType.eq_code_of_ofCode? hwire
      refine ⟨front, hfront, ⟨?_, Nat.pos_of_ne_zero hn.2, ?_⟩⟩
      · rw [← hlow]
        show Varint.Spells 9 front (8 * (n / 8) + n % 8)
        rwa [Nat.div_add_mod]
      · show n / 8 < UInt32.size / 8
        omega
    next => cases h

theorem Key.spells_iff_read? {key : Key} {front : List UInt8} :
    key.Spells front ↔ read? front = some (key, []) := by
  constructor
  · intro h
    have hread := h.read?_append []
    rwa [List.append_nil] at hread
  · intro h
    obtain ⟨front', rfl, hspells⟩ := spells_of_read? h
    rwa [List.append_nil]

instance (key : Key) (front : List UInt8) : Decidable (key.Spells front) :=
  decidable_of_iff _ Key.spells_iff_read?.symm

/-- The bytes are a length and content of that length. -/
def Delimits (bytes content : List UInt8) : Prop :=
  ∃ front, Varint.Spells 9 front content.length ∧ bytes = front ++ content

theorem Delimits.readDelimited?_append {bytes content : List UInt8} (h : Delimits bytes content)
    (rest : List UInt8) : readDelimited? (bytes ++ rest) = some (content, rest) := by
  obtain ⟨front, hspells, rfl⟩ := h
  rw [readDelimited?, List.append_assoc, hspells.read?_append]
  exact takeExact?_append content rest

theorem delimits_of_readDelimited? {bytes content rest : List UInt8}
    (h : readDelimited? bytes = some (content, rest)) :
    ∃ front, bytes = front ++ rest ∧ Delimits front content := by
  rw [readDelimited?] at h
  split at h
  next => cases h
  next n rest' hr =>
    obtain ⟨front, rfl, hspells⟩ := Varint.spells_of_readWithin hr
    obtain ⟨rfl, rfl⟩ := takeExact?_eq_some_iff.mp h
    exact ⟨front ++ content, (List.append_assoc _ _ _).symm, front, hspells, rfl⟩

/-! ## Fields and their values -/

/-- The bytes are fields one after the other: a key each, and a value that it may have. -/
inductive Fields (value : Key → List UInt8 → Prop) : List UInt8 → Prop where
  | nil : Fields value []
  | cons {key : Key} {front content rest : List UInt8} (hkey : key.Spells front)
    (hvalue : value key content) (hrest : Fields value rest) :
    Fields value (front ++ (content ++ rest))

theorem Fields.imp {value value' : Key → List UInt8 → Prop}
    (himp : ∀ {key content}, value key content → value' key content) {bytes : List UInt8}
    (h : Fields value bytes) : Fields value' bytes := by
  induction h with
  | nil => exact .nil
  | cons hkey hvalue _ ih => exact .cons hkey (himp hvalue) ih

/-- The bytes are the value of a field with this key, in which groups are nested in less than
`levels` levels. A group ends with an end marker that has its own tag. -/
def Value : (levels : Nat) → Key → List UInt8 → Prop
  | 0, _, _ => False
  | levels + 1, key, bytes =>
    match key.wire with
    | .varint => ∃ n, Varint.Spells 9 bytes n
    | .fixed64 => bytes.length = 8
    | .delimited => ∃ content, Delimits bytes content
    | .startGroup => ∃ fields closing, Fields (Value levels) fields ∧
        Key.Spells ⟨key.tag, .endGroup⟩ closing ∧ bytes = fields ++ closing
    | .endGroup => False
    | .fixed32 => bytes.length = 4

theorem value_startGroup {levels tag : Nat} {bytes : List UInt8} :
    Value (levels + 1) ⟨tag, .startGroup⟩ bytes ↔
      ∃ fields closing, Fields (Value levels) fields ∧ Key.Spells ⟨tag, .endGroup⟩ closing ∧
        bytes = fields ++ closing :=
  Iff.rfl

theorem Value.succ {levels : Nat} {key : Key} {bytes : List UInt8} (h : Value levels key bytes) :
    Value (levels + 1) key bytes := by
  induction levels generalizing key bytes with
  | zero => cases h
  | succ levels ih =>
    obtain ⟨tag, wire⟩ := key
    cases wire with
    | startGroup =>
      obtain ⟨fields, closing, hfields, hclosing, hbytes⟩ := value_startGroup.mp h
      exact value_startGroup.mpr ⟨fields, closing, hfields.imp ih, hclosing, hbytes⟩
    | _ => exact h

theorem Value.mono {levels levels' : Nat} (hle : levels ≤ levels') {key : Key}
    {bytes : List UInt8} (h : Value levels key bytes) : Value levels' key bytes := by
  induction hle with
  | refl => exact h
  | step _ ih => exact ih.succ

theorem Value.wire_ne_endGroup {levels : Nat} {key : Key} {bytes : List UInt8}
    (h : Value levels key bytes) : key.wire ≠ .endGroup := by
  obtain ⟨tag, wire⟩ := key
  rintro rfl
  cases levels <;> exact h

/-! ## Passing over values -/

section

variable {skipField : (fuel : Nat) → Key → List UInt8 → Option (List UInt8)}
  {value : Key → List UInt8 → Prop} {tag fuel : Nat}

theorem fields_of_skipGroup {bytes rest : List UInt8}
    (h : skipGroup skipField tag fuel bytes = some rest)
    (hfield : ∀ {fuel key bytes rest}, skipField fuel key bytes = some rest →
      ∃ front, bytes = front ++ rest ∧ value key front) :
    ∃ fields closing, bytes = fields ++ (closing ++ rest) ∧ Fields value fields ∧
      Key.Spells ⟨tag, .endGroup⟩ closing := by
  induction fuel generalizing bytes with
  | zero => cases h
  | succ fuel ih =>
    rw [skipGroup] at h
    split at h
    next => cases h
    next key rest₁ hkey =>
      obtain ⟨front, rfl, hfront⟩ := Key.spells_of_read? hkey
      split at h
      next hend =>
        split at h
        next htag =>
          cases h
          obtain ⟨keyTag, wire⟩ := key
          simp only at hend htag
          subst hend htag
          exact ⟨[], front, rfl, .nil, hfront⟩
        next => cases h
      next =>
        split at h
        next => cases h
        next rest₂ hskip =>
          obtain ⟨content, rfl, hcontent⟩ := hfield hskip
          obtain ⟨fields, closing, rfl, hfields, hclosing⟩ := ih h
          refine ⟨front ++ (content ++ fields), closing, ?_, .cons hfront hcontent hfields,
            hclosing⟩
          simp only [List.append_assoc]

theorem Fields.skipGroup_append {fields : List UInt8} (h : Fields value fields)
    (hfield : ∀ {fuel key front} rest, value key front → (front ++ rest).length ≤ fuel →
      skipField fuel key (front ++ rest) = some rest)
    (hopen : ∀ {key front}, value key front → key.wire ≠ .endGroup) {closing : List UInt8}
    (hclosing : Key.Spells ⟨tag, .endGroup⟩ closing) (rest : List UInt8)
    (hfuel : (fields ++ (closing ++ rest)).length ≤ fuel) :
    skipGroup skipField tag fuel (fields ++ (closing ++ rest)) = some rest := by
  induction h generalizing fuel with
  | nil =>
    have hkey := hclosing.read?_append rest
    have hshort := Key.length_read? hkey
    rw [List.nil_append] at hfuel ⊢
    obtain ⟨fuel, rfl⟩ := Nat.exists_eq_add_one_of_ne_zero (n := fuel) (by omega)
    rw [skipGroup, hkey]
    simp only [if_true]
  | @cons key front content others hfront hvalue _ ih =>
    simp only [List.append_assoc] at hfuel ⊢
    have hkey := hfront.read?_append (content ++ (others ++ (closing ++ rest)))
    have hshort := Key.length_read? hkey
    obtain ⟨fuel, rfl⟩ := Nat.exists_eq_add_one_of_ne_zero (n := fuel) (by omega)
    have hcontent : (others ++ (closing ++ rest)).length ≤
        (content ++ (others ++ (closing ++ rest))).length := by
      simp only [List.length_append]
      omega
    have hskip : skipField fuel key (content ++ (others ++ (closing ++ rest))) =
        some (others ++ (closing ++ rest)) :=
      hfield _ hvalue (by omega)
    rw [skipGroup, hkey]
    simp only [hopen hvalue, if_false, hskip]
    exact ih (by omega)

end

theorem value_of_skip {levels fuel : Nat} {key : Key} {bytes rest : List UInt8}
    (h : skip levels fuel key bytes = some rest) :
    ∃ front, bytes = front ++ rest ∧ Value levels key front := by
  induction levels generalizing fuel key bytes rest with
  | zero => cases h
  | succ levels ih =>
    obtain ⟨tag, wire⟩ := key
    cases wire with
    | varint =>
      obtain ⟨⟨n, rest'⟩, hr, rfl⟩ := Option.map_eq_some_iff.mp h
      obtain ⟨front, hfront, hspells⟩ := Varint.read?_eq_some_iff.mp hr
      exact ⟨front, hfront, (⟨n, hspells⟩ : ∃ n, Varint.Spells 9 front n)⟩
    | fixed64 =>
      obtain ⟨⟨front, rest'⟩, hr, rfl⟩ := Option.map_eq_some_iff.mp h
      exact ⟨front, takeExact?_eq_some_iff.mp hr⟩
    | delimited =>
      obtain ⟨⟨content, rest'⟩, hr, rfl⟩ := Option.map_eq_some_iff.mp h
      obtain ⟨front, hfront, hdelimits⟩ := delimits_of_readDelimited? hr
      exact ⟨front, hfront, (⟨content, hdelimits⟩ : ∃ content, Delimits front content)⟩
    | startGroup =>
      have hgroup : skipGroup (skip levels) tag fuel bytes = some rest := h
      obtain ⟨fields, closing, rfl, hfields, hclosing⟩ := fields_of_skipGroup hgroup ih
      refine ⟨fields ++ closing, (List.append_assoc _ _ _).symm, ?_⟩
      exact value_startGroup.mpr ⟨fields, closing, hfields, hclosing, rfl⟩
    | endGroup => cases h
    | fixed32 =>
      obtain ⟨⟨front, rest'⟩, hr, rfl⟩ := Option.map_eq_some_iff.mp h
      exact ⟨front, takeExact?_eq_some_iff.mp hr⟩

theorem Value.skip_append {levels fuel : Nat} {key : Key} {front : List UInt8}
    (h : Value levels key front) (rest : List UInt8) (hfuel : (front ++ rest).length ≤ fuel) :
    skip levels fuel key (front ++ rest) = some rest := by
  induction levels generalizing fuel key front rest with
  | zero => cases h
  | succ levels ih =>
    obtain ⟨tag, wire⟩ := key
    cases wire with
    | varint =>
      obtain ⟨n, hspells⟩ := h
      simp only [skip, hspells.read?_append rest, Option.map_some]
    | fixed64 => simp only [skip, takeExact?_eq_some_iff.mpr ⟨rfl, h⟩, Option.map_some]
    | delimited =>
      obtain ⟨content, hdelimits⟩ := h
      simp only [skip, hdelimits.readDelimited?_append rest, Option.map_some]
    | startGroup =>
      obtain ⟨fields, closing, hfields, hclosing, rfl⟩ := value_startGroup.mp h
      rw [List.append_assoc] at hfuel ⊢
      exact hfields.skipGroup_append (fun rest hvalue hfuel => ih hvalue rest hfuel)
        Value.wire_ne_endGroup hclosing rest hfuel
    | endGroup => cases h
    | fixed32 => simp only [skip, takeExact?_eq_some_iff.mpr ⟨rfl, h⟩, Option.map_some]

/-- **Values that are passed over** are those of the grammar, and no byte more. -/
theorem skip_eq_some_iff {levels : Nat} {key : Key} {bytes rest : List UInt8} :
    skip levels bytes.length key bytes = some rest ↔
      ∃ front, bytes = front ++ rest ∧ Value levels key front := by
  constructor
  · exact value_of_skip
  · rintro ⟨front, rfl, h⟩
    exact h.skip_append rest (Nat.le_refl _)

theorem value_iff_skip {levels : Nat} {key : Key} {bytes : List UInt8} :
    Value levels key bytes ↔ skip levels bytes.length key bytes = some [] := by
  rw [skip_eq_some_iff]
  simp only [List.append_nil, exists_eq_left']

instance (levels : Nat) (key : Key) (bytes : List UInt8) : Decidable (Value levels key bytes) :=
  decidable_of_iff _ value_iff_skip.symm

/-- Values of a field that the same bytes begin with are one. -/
theorem Value.eq_of_append_eq {levels levels' : Nat} {key : Key}
    {front front' rest rest' : List UInt8} (h : Value levels key front)
    (h' : Value levels' key front') (heq : front ++ rest = front' ++ rest') : front = front' := by
  have hskip := (h.mono (Nat.le_max_left levels levels')).skip_append rest (Nat.le_refl _)
  have hskip' := (h'.mono (Nat.le_max_right levels levels')).skip_append rest' (Nat.le_refl _)
  rw [heq, hskip'] at hskip
  cases hskip
  exact List.append_cancel_right heq

/-- Whether a value is passed over does not depend on the bytes after it. -/
theorem Value.skip_eq {levels : Nat} {key : Key} {front : List UInt8}
    (h : Value levels key front) (budget : Nat) :
    (∀ rest, skip budget (front ++ rest).length key (front ++ rest) = some rest) ∨
      ∀ rest, skip budget (front ++ rest).length key (front ++ rest) = none := by
  by_cases hbudget : Value budget key front
  · exact .inl fun rest => hbudget.skip_append rest (Nat.le_refl _)
  · refine .inr fun rest => ?_
    cases hskip : skip budget (front ++ rest).length key (front ++ rest) with
    | none => rfl
    | some rest' =>
      obtain ⟨front', heq, hfront'⟩ := value_of_skip hskip
      rw [h.eq_of_append_eq hfront' heq] at hbudget
      exact absurd hfront' hbudget

end ScriptClient.Wire
