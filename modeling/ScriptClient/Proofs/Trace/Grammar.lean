import ScriptClient.Proofs.Trace.Canonical
import ScriptClient.Text.Lowercase

set_option autoImplicit false

/-! # The grammar of contexts

Which texts stand for a context, apart from any reader: version 00, two identifiers of hexadecimal
digits that are not all zero, and two such digits for the flags, with dashes between them
(`Spells`). Reading looks past the blanks around a text. It accepts all these texts, and one kind
besides: those with a plus in the place of the first of the two digits (`parse?_eq_some_iff`). So it
follows the grammar exactly where there is no such plus (`contexts_read`). -/

namespace ScriptClient.Trace.Context

open Text

/-! ## Texts in parts -/

/-- A text of version 00 in parts: its identifiers, and the two characters of its flags. -/
structure Parts where
  traceId : List Char
  spanId : List Char
  high : Char
  low : Char

/-- So many hexadecimal digits, in either case, that are not all zero. -/
structure IsHexId (length : Nat) (cs : List Char) : Prop where
  length_eq : cs.length = length
  digits : ∀ c ∈ cs, ∃ n, Hex.StandsFor c n
  ne_zero : ∃ c ∈ cs, c ≠ '0'

namespace Parts

/-- The text that the parts make up. -/
def text (p : Parts) : List Char :=
  ['0', '0'] ++ '-' :: (p.traceId ++ '-' :: (p.spanId ++ '-' :: [p.high, p.low]))

/-- The identifiers have their lengths and digits. -/
structure HasIds (p : Parts) : Prop where
  traceId : IsHexId 32 p.traceId
  spanId : IsHexId 16 p.spanId

/-- The context has the identifiers in lowercase, and these flags. -/
structure Says (p : Parts) (flags : Nat) (c : Context) : Prop where
  traceId : c.traceId.toList = p.traceId.map Char.toLower
  spanId : c.spanId.toList = p.spanId.map Char.toLower
  flags : c.flags.toNat = flags

end Parts

/-- The text has the form of a context. -/
def IsTraceparent (cs : List Char) : Prop :=
  ∃ p : Parts, cs = p.text ∧ p.HasIds ∧ (∃ h, Hex.StandsFor p.high h) ∧ ∃ l, Hex.StandsFor p.low l

/-- The text stands for the context, where `lead` tells what the first character of its flags may
be, and count for. -/
def SpellsWith (lead : Char → Nat → Prop) (cs : List Char) (c : Context) : Prop :=
  ∃ (p : Parts) (h l : Nat), cs = p.text ∧ p.HasIds ∧ lead p.high h ∧ Hex.StandsFor p.low l ∧
    p.Says (16 * h + l) c

/-- The text has the form of a context and stands for this one. -/
def Spells : List Char → Context → Prop :=
  SpellsWith Hex.StandsFor

/-- The text would stand for the context if flags were a plus and a digit. -/
def SpellsSigned : List Char → Context → Prop :=
  SpellsWith fun c n => c = '+' ∧ n = 0

theorem spellsWith_or {lead lead' : Char → Nat → Prop} {cs : List Char} {c : Context} :
    SpellsWith (fun d n => lead d n ∨ lead' d n) cs c ↔
      SpellsWith lead cs c ∨ SpellsWith lead' cs c := by
  constructor
  · rintro ⟨p, h, l, htext, hids, hhigh | hhigh, hrest⟩
    · exact .inl ⟨p, h, l, htext, hids, hhigh, hrest⟩
    · exact .inr ⟨p, h, l, htext, hids, hhigh, hrest⟩
  · rintro (⟨p, h, l, htext, hids, hhigh, hrest⟩ | ⟨p, h, l, htext, hids, hhigh, hrest⟩)
    · exact ⟨p, h, l, htext, hids, .inl hhigh, hrest⟩
    · exact ⟨p, h, l, htext, hids, .inr hhigh, hrest⟩

/-! ## Reading the parts -/

theorem isHexId_iff {length : Nat} {cs : List Char} : IsHexId length cs ↔ isId length cs = true := by
  rw [isId_iff]
  constructor
  · rintro ⟨hlength, hdigits, hne⟩
    exact ⟨hlength, fun c hc => Hex.isDigit_iff.mpr (hdigits c hc), hne⟩
  · rintro ⟨hlength, hdigits, hne⟩
    exact ⟨hlength, fun c hc => Hex.isDigit_iff.mp (hdigits c hc), hne⟩

/-- What the first of two characters may be that are read as flags, and what it counts for. -/
def Leads (c : Char) (n : Nat) : Prop :=
  Hex.StandsFor c n ∨ (c = '+' ∧ n = 0)

theorem not_standsFor_dash (n : Nat) : ¬ Hex.StandsFor '-' n :=
  fun h => nomatch Hex.value?_eq_some_iff.mpr h

theorem not_standsFor_plus (n : Nat) : ¬ Hex.StandsFor '+' n :=
  fun h => nomatch Hex.value?_eq_some_iff.mpr h

/-- Flags are read from two digits, or from a plus and a digit. -/
theorem readFlags?_eq_some_iff {cs : List Char} {flags : UInt8} :
    readFlags? cs = some flags ↔
      ∃ high low h l, cs = [high, low] ∧ Leads high h ∧ Hex.StandsFor low l ∧
        flags.toNat = 16 * h + l := by
  have hnumber : ∀ {n : Nat}, n < 256 → (UInt8.ofNat n = flags ↔ flags.toNat = n) := by
    intro n hn
    rw [← UInt8.toNat_inj, UInt8.toNat_ofNat_of_lt' hn]
    exact eq_comm
  constructor
  · intro hread
    unfold readFlags? at hread
    split at hread
    next high low =>
      split at hread
      next => cases hread
      next l hl =>
        have hlow := Hex.value?_eq_some_iff.mp hl
        split at hread
        next hplus =>
          refine ⟨high, low, 0, l, rfl, .inr ⟨hplus, rfl⟩, hlow, ?_⟩
          rw [Nat.mul_zero, Nat.zero_add]
          exact (hnumber (Nat.lt_trans hlow.1 (by decide))).mp (Option.some.inj hread)
        next =>
          obtain ⟨h, hh, heq⟩ := Option.map_eq_some_iff.mp hread
          have hhigh := Hex.value?_eq_some_iff.mp hh
          have hlt : 16 * h + l < 256 := by
            have := hhigh.1
            have := hlow.1
            omega
          exact ⟨high, low, h, l, rfl, .inl hhigh, hlow, (hnumber hlt).mp heq⟩
    next => cases hread
  · rintro ⟨high, low, h, l, rfl, hhigh, hlow, hflags⟩
    have heq : UInt8.ofNat (16 * h + l) = flags := (hnumber (hflags ▸ flags.toNat_lt)).mpr hflags
    rw [readFlags?, Hex.value?_eq_some_iff.mpr hlow]
    rcases hhigh with hhigh | ⟨rfl, rfl⟩
    · have hplus : high ≠ '+' := fun hplus => not_standsFor_plus h (hplus ▸ hhigh)
      simp only [if_neg hplus, Hex.value?_eq_some_iff.mpr hhigh, Option.map_some, heq]
    · rw [Nat.mul_zero, Nat.zero_add] at heq
      simp only [if_true, heq]

namespace Parts

theorem Says.eq {p : Parts} {flags : Nat} {c : Context} (h : p.Says flags c) :
    c = ⟨String.ofList (p.traceId.map Char.toLower), String.ofList (p.spanId.map Char.toLower),
      c.flags⟩ := by
  rw [← h.traceId, ← h.spanId, String.ofList_toList, String.ofList_toList]

/-- No dash is a digit, so the parts are the pieces of their text. -/
theorem splitAt_text {p : Parts} {h l : Nat} (hids : p.HasIds) (hhigh : Leads p.high h)
    (hlow : Hex.StandsFor p.low l) :
    splitAt '-' p.text = [['0', '0'], p.traceId, p.spanId, [p.high, p.low]] := by
  have hdash : ∀ {length : Nat} {cs : List Char}, IsHexId length cs → '-' ∉ cs := by
    intro length cs hid hmem
    obtain ⟨n, hn⟩ := hid.digits '-' hmem
    exact not_standsFor_dash n hn
  have hflags : '-' ∉ [p.high, p.low] := by
    simp only [List.mem_cons, List.not_mem_nil, or_false, not_or]
    refine ⟨fun heq => ?_, fun heq => not_standsFor_dash l (heq ▸ hlow)⟩
    rw [← heq] at hhigh
    rcases hhigh with hhigh | ⟨hplus, -⟩
    · exact not_standsFor_dash h hhigh
    · cases hplus
  rw [text, splitAt_append_cons (by decide), splitAt_append_cons (hdash hids.traceId),
    splitAt_append_cons (hdash hids.spanId), splitAt_of_not_mem hflags]

end Parts

/-- **Reading a context.** A text is read as a context exactly if it stands for this one, or would
do so if flags were a plus and a digit. -/
theorem parse?_eq_some_iff {value : String} {c : Context} :
    parse? value = some c ↔ Spells (trim value.toList) c ∨ SpellsSigned (trim value.toList) c := by
  rw [Spells, SpellsSigned, ← spellsWith_or]
  constructor
  · intro hread
    rw [parse?] at hread
    split at hread
    next version traceId spanId flags hpieces =>
      split at hread
      next hids =>
        obtain ⟨n, hflags, rfl⟩ := Option.map_eq_some_iff.mp hread
        obtain ⟨high, low, h, l, rfl, hhigh, hlow, hn⟩ := readFlags?_eq_some_iff.mp hflags
        have htext := intercalate_splitAt '-' (trim value.toList)
        rw [hpieces, hids.1] at htext
        refine ⟨⟨traceId, spanId, high, low⟩, h, l, htext.symm, ?_, hhigh, hlow, ?_⟩
        · exact ⟨isHexId_iff.mpr hids.2.1, isHexId_iff.mpr hids.2.2⟩
        · exact ⟨String.toList_ofList, String.toList_ofList, hn⟩
      next => cases hread
    next => cases hread
  · rintro ⟨p, h, l, htext, hids, hhigh, hlow, hvalue⟩
    have hflags : readFlags? [p.high, p.low] = some c.flags :=
      readFlags?_eq_some_iff.mpr ⟨p.high, p.low, h, l, rfl, hhigh, hlow, hvalue.flags⟩
    rw [parse?, htext, Parts.splitAt_text hids hhigh hlow]
    simp only [isHexId_iff.mp hids.traceId, isHexId_iff.mp hids.spanId, and_self, if_true, hflags,
      Option.map_some, ← hvalue.eq]

/-! ## Texts and their contexts -/

/-- A text stands for some context exactly if it has the form of one. -/
theorem exists_spells_iff {cs : List Char} : (∃ c, Spells cs c) ↔ IsTraceparent cs := by
  constructor
  · rintro ⟨c, p, h, l, htext, hids, hhigh, hlow, -⟩
    exact ⟨p, htext, hids, ⟨h, hhigh⟩, ⟨l, hlow⟩⟩
  · rintro ⟨p, htext, hids, ⟨h, hhigh⟩, ⟨l, hlow⟩⟩
    have hlt : 16 * h + l < 256 := by
      have := hhigh.1
      have := hlow.1
      omega
    exact ⟨⟨String.ofList (p.traceId.map Char.toLower), String.ofList (p.spanId.map Char.toLower),
      UInt8.ofNat (16 * h + l)⟩, p, h, l, htext, hids, hhigh, hlow, String.toList_ofList,
      String.toList_ofList, UInt8.toNat_ofNat_of_lt' hlt⟩

/-- The first character of the flags is the last but one of the text. -/
theorem Parts.reverse_text (p : Parts) : p.text.reverse[1]? = some p.high := by
  simp [text]

theorem not_isTraceparent_of_plus {cs : List Char} (h : cs.reverse[1]? = some '+') :
    ¬ IsTraceparent cs := by
  rintro ⟨p, rfl, -, ⟨n, hhigh⟩, -⟩
  rw [← Option.some.inj (h.symm.trans p.reverse_text)] at hhigh
  exact not_standsFor_plus n hhigh

theorem SpellsSigned.reverse {cs : List Char} {c : Context} (h : SpellsSigned cs c) :
    cs.reverse[1]? = some '+' := by
  obtain ⟨p, _, _, rfl, -, ⟨hplus, -⟩, -⟩ := h
  rw [p.reverse_text, hplus]

/-- The text of a context is the text that stands for it, in lowercase. -/
theorem Spells.toList_render {cs : List Char} {c : Context} (h : Spells cs c) :
    c.render.toList = lowercase cs := by
  obtain ⟨p, high, low, rfl, hids, hhigh, hlow, hvalue⟩ := h
  have hid : ∀ {length : Nat} {id : List Char}, IsHexId length id → ∀ d ∈ id, d.toNat < 0x80 := by
    intro length id h d hd
    obtain ⟨n, hn⟩ := h.digits d hd
    exact Hex.toNat_lt_of_standsFor hn
  have hascii : ∀ d ∈ p.text, d.toNat < 0x80 := by
    intro d hd
    simp only [Parts.text, List.mem_append, List.mem_cons, List.not_mem_nil, or_false] at hd
    rcases hd with (rfl | rfl) | rfl | hd | rfl | hd | rfl | rfl | rfl
    · decide
    · decide
    · decide
    · exact hid hids.traceId d hd
    · decide
    · exact hid hids.spanId d hd
    · decide
    · exact Hex.toNat_lt_of_standsFor hhigh
    · exact Hex.toNat_lt_of_standsFor hlow
  have hflags : Hex.fixed 2 c.flags.toNat = [p.high.toLower, p.low.toLower] := by
    have hdiv : (16 * high + low) / 16 % 16 = high := by
      have := hhigh.1
      have := hlow.1
      omega
    have hmod : (16 * high + low) % 16 = low := by
      have := hlow.1
      omega
    rw [hvalue.flags, hhigh.2, hlow.2, Hex.fixed_succ_eq_cons, Hex.fixed_succ_eq_cons, Hex.fixed,
      Nat.pow_one, Nat.pow_zero, Nat.div_one, hdiv, hmod]
  rw [lowercase_of_ascii _ hascii, Context.toList_render, hvalue.traceId, hvalue.spanId, hflags]
  simp only [Parts.text, List.map_append, List.map_cons, List.map_nil]
  rfl

/-- **Which texts are contexts.** A text is read as the context that it stands for, if it stands for
one, and that context is written as the text in lowercase. Any other text is read only if it would
stand for a context with a plus and a digit for flags. Unless it would, a text is read exactly if it
has the form of a context, and as what it stands for. -/
theorem contexts_read (value : String) :
    let text := trim value.toList
    (∀ c, Spells text c → parse? value = some c ∧ c.render.toList = lowercase text) ∧
      ((∃ c, SpellsSigned text c) → (∃ c, parse? value = some c) ∧ ¬ IsTraceparent text) ∧
      ((¬ ∃ c, SpellsSigned text c) →
        ((∃ c, parse? value = some c) ↔ IsTraceparent text) ∧
          ∀ c, parse? value = some c ↔ Spells text c) := by
  intro text
  refine ⟨?_, ?_, ?_⟩
  · intro c hspells
    exact ⟨parse?_eq_some_iff.mpr (.inl hspells), hspells.toList_render⟩
  · rintro ⟨c, hsigned⟩
    exact ⟨⟨c, parse?_eq_some_iff.mpr (.inr hsigned)⟩, not_isTraceparent_of_plus hsigned.reverse⟩
  · intro hplain
    have hread : ∀ c, parse? value = some c ↔ Spells text c := by
      intro c
      rw [parse?_eq_some_iff]
      exact or_iff_left fun hsigned => hplain ⟨c, hsigned⟩
    refine ⟨?_, hread⟩
    rw [← exists_spells_iff]
    exact exists_congr hread

/-- A text with digits in both cases, and blanks around it. -/
theorem contexts_read_in_both_cases :
    let value := "\t00-0AF7651916cd43dd8448eb211c80319c-b7ad6b716920333F-aF "
    (¬ ∃ c, SpellsSigned (trim value.toList) c) ∧ IsTraceparent (trim value.toList) ∧
      parse? value = some ⟨"0af7651916cd43dd8448eb211c80319c", "b7ad6b716920333f", 0xaf⟩ := by
  intro value
  have hplain : ¬ ∃ c, SpellsSigned (trim value.toList) c := by
    rintro ⟨c, hsigned⟩
    exact absurd hsigned.reverse (by decide +kernel)
  have hread : parse? value =
      some ⟨"0af7651916cd43dd8448eb211c80319c", "b7ad6b716920333f", 0xaf⟩ := by
    decide +kernel
  exact ⟨hplain, ((contexts_read value).2.2 hplain).1.mp ⟨_, hread⟩, hread⟩

/-- Flags of a plus and a digit are read, although they have no form that flags may have. -/
theorem signed_flags_read :
    let value := "00-0af7651916cd43dd8448eb211c80319c-b7ad6b7169203331-+f"
    parse? value = some ⟨"0af7651916cd43dd8448eb211c80319c", "b7ad6b7169203331", 15⟩ ∧
      ¬ IsTraceparent (trim value.toList) := by
  intro value
  exact ⟨by decide +kernel, not_isTraceparent_of_plus (by decide +kernel)⟩

end ScriptClient.Trace.Context
