import ScriptClient.Proofs.Text.Hex
import ScriptClient.Proofs.Text.Pieces
import ScriptClient.Trace.Context

set_option autoImplicit false

/-! # Canonical contexts

A context whose identifiers are lowercase digits, not all zero, is read back from its text
(`Canonical.parse?_render`). Every context that a program can come by is canonical: one that was
read (`canonical_of_parse?`), a new one (`canonical_fresh`), and the child of a canonical one
(`Canonical.child`). -/

namespace ScriptClient.Trace

open Text

namespace Context

/-- An identifier as it is kept: so many digits in lowercase, not all zero. -/
structure IsCanonicalId (length : Nat) (id : String) : Prop where
  isId : isId length id.toList = true
  isLower : ∀ c ∈ id.toList, Hex.isLower c = true

/-- A context whose identifiers are as they are kept. -/
structure Canonical (c : Context) : Prop where
  traceId : IsCanonicalId 32 c.traceId
  spanId : IsCanonicalId 16 c.spanId

theorem isId_iff {length : Nat} {cs : List Char} :
    isId length cs = true ↔
      cs.length = length ∧ (∀ c ∈ cs, Hex.isDigit c = true) ∧ ∃ c ∈ cs, c ≠ '0' := by
  simp only [isId, Bool.and_eq_true, decide_eq_true_eq, List.all_eq_true, List.any_eq_true,
    and_assoc]

/-! ## Identifiers -/

/-- An identifier that was read is kept in lowercase. -/
theorem isCanonicalId_toLower {length : Nat} {cs : List Char} (h : isId length cs = true) :
    IsCanonicalId length (String.ofList (cs.map Char.toLower)) := by
  obtain ⟨hlength, hdigits, c, hc, hne⟩ := isId_iff.mp h
  have hlower : ∀ d ∈ cs.map Char.toLower, Hex.isLower d = true := by
    intro d hd
    obtain ⟨e, he, rfl⟩ := List.mem_map.mp hd
    exact (Hex.isLower_toLower (hdigits e he)).1
  constructor
  · rw [String.toList_ofList]
    refine isId_iff.mpr ⟨by rw [List.length_map, hlength], ?_, c.toLower,
      List.mem_map_of_mem hc, fun hzero => hne ((Hex.isLower_toLower (hdigits c hc)).2 hzero)⟩
    exact fun d hd => (Hex.isLower_facts (hlower d hd)).1
  · rwa [String.toList_ofList]

/-- The digits of an identifier that is made are canonical if one of them is not zero. -/
theorem isCanonicalId_of_lower {length : Nat} {cs : List Char} (hlength : cs.length = length)
    (hlower : ∀ c ∈ cs, Hex.isLower c = true) (hne : ∃ c ∈ cs, c ≠ '0') :
    IsCanonicalId length (String.ofList cs) := by
  constructor
  · rw [String.toList_ofList]
    exact isId_iff.mpr ⟨hlength, fun c hc => (Hex.isLower_facts (hlower c hc)).1, hne⟩
  · rwa [String.toList_ofList]

/-- The lowest bit of a number is set, so its last digit is not zero. -/
theorem exists_ne_zero_wordDigits (n : UInt64) : ∃ c ∈ wordDigits (n ||| 1), c ≠ '0' :=
  Hex.exists_ne_zero_of_odd (by decide) (toNat_or_one_mod_two n)

theorem exists_ne_zero_traceLow (t : Tick) : ∃ c ∈ wordDigits t.traceLow, c ≠ '0' := by
  rw [Tick.traceLow]
  exact exists_ne_zero_wordDigits _

theorem exists_ne_zero_span (t : Tick) : ∃ c ∈ wordDigits t.span, c ≠ '0' := by
  rw [Tick.span]
  exact exists_ne_zero_wordDigits _

theorem isCanonicalId_freshTraceId (t : Tick) : IsCanonicalId 32 (freshTraceId t) := by
  obtain ⟨c, hc, hne⟩ := exists_ne_zero_traceLow t
  refine isCanonicalId_of_lower ?_ ?_ ⟨c, List.mem_append_right _ hc, hne⟩
  · rw [List.length_append, wordDigits, wordDigits, Hex.length_fixed, Hex.length_fixed]
  · intro d hd
    rcases List.mem_append.mp hd with hd | hd
    · exact Hex.isLower_of_mem_fixed hd
    · exact Hex.isLower_of_mem_fixed hd

theorem isCanonicalId_freshSpanId (t : Tick) : IsCanonicalId 16 (freshSpanId t) := by
  refine isCanonicalId_of_lower ?_ ?_ (exists_ne_zero_span t)
  · rw [wordDigits, Hex.length_fixed]
  · exact fun d hd => Hex.isLower_of_mem_fixed hd

/-! ## Contexts -/

/-- A new trace is canonical. -/
theorem canonical_fresh (forTrace forSpan : Tick) : (fresh forTrace forSpan).Canonical :=
  ⟨isCanonicalId_freshTraceId forTrace, isCanonicalId_freshSpanId forSpan⟩

@[simp]
theorem traceId_child (c : Context) (t : Tick) : (c.child t).traceId = c.traceId := by
  rw [child]

@[simp]
theorem spanId_child (c : Context) (t : Tick) : (c.child t).spanId = freshSpanId t := by
  rw [child]

@[simp]
theorem flags_child (c : Context) (t : Tick) : (c.child t).flags = c.flags := by
  rw [child]

/-- A call within a canonical trace has a canonical context. -/
theorem Canonical.child {c : Context} (h : c.Canonical) (t : Tick) : (c.child t).Canonical := by
  constructor
  · rw [traceId_child]
    exact h.traceId
  · rw [spanId_child]
    exact isCanonicalId_freshSpanId t

/-- A context that was read is canonical. -/
theorem canonical_of_parse? {value : String} {c : Context} (h : parse? value = some c) :
    c.Canonical := by
  rw [parse?] at h
  split at h
  next version traceId spanId flags _ =>
    split at h
    next hids =>
      obtain ⟨n, -, rfl⟩ := Option.map_eq_some_iff.mp h
      exact ⟨isCanonicalId_toLower hids.2.1, isCanonicalId_toLower hids.2.2⟩
    next => cases h
  next => cases h

/-! ## Reading a written context -/

theorem readFlags?_fixed (flags : UInt8) : readFlags? (Hex.fixed 2 flags.toNat) = some flags := by
  have hflags : flags.toNat < 256 := flags.toNat_lt
  have hhigh : flags.toNat / 16 % 16 < 16 := Nat.mod_lt _ (by decide)
  have hlow : flags.toNat % 16 < 16 := Nat.mod_lt _ (by decide)
  have hplus : Hex.digit (flags.toNat / 16 % 16) ≠ '+' := by
    have hall : ∀ m : Fin 16, Hex.digit m.val ≠ '+' := by decide
    exact hall ⟨_, hhigh⟩
  have hvalue : 16 * (flags.toNat / 16 % 16) + flags.toNat % 16 = flags.toNat := by omega
  rw [Hex.fixed_succ_eq_cons, Hex.fixed_succ_eq_cons, Hex.fixed, readFlags?, Nat.pow_one,
    Nat.pow_zero, Nat.div_one, Hex.value?_digit _ hlow]
  simp only [if_neg hplus, Hex.value?_digit _ hhigh, Option.map_some, hvalue, UInt8.ofNat_toNat]

theorem toList_render (c : Context) :
    c.render.toList = ['0', '0'] ++ '-' :: (c.traceId.toList ++ '-' :: (c.spanId.toList ++
      '-' :: Hex.fixed 2 c.flags.toNat)) := by
  simp only [render, String.toList_append, String.toList_ofList, List.append_assoc]
  rfl

/-- The text of a canonical context has only written digits and dashes. -/
theorem Canonical.mem_render {c : Context} (h : c.Canonical) {d : Char} (hd : d ∈ c.render.toList) :
    Hex.isLower d = true ∨ d = '-' := by
  simp only [toList_render, List.mem_append, List.mem_cons, List.not_mem_nil, or_false] at hd
  rcases hd with (rfl | rfl) | rfl | hd | rfl | hd | rfl | hd
  · exact .inl rfl
  · exact .inl rfl
  · exact .inr rfl
  · exact .inl (h.traceId.isLower d hd)
  · exact .inr rfl
  · exact .inl (h.spanId.isLower d hd)
  · exact .inr rfl
  · exact .inl (Hex.isLower_of_mem_fixed hd)

/-- **Reading a written context.** A canonical context is read back from its text. -/
theorem Canonical.parse?_render {c : Context} (h : c.Canonical) : parse? c.render = some c := by
  have htrim : trim c.render.toList = c.render.toList := by
    refine trim_eq_self fun d hd => ?_
    rcases h.mem_render hd with hlower | rfl
    · exact (Hex.isLower_facts hlower).2.2.2.1
    · rfl
  have hdash : ∀ {cs : List Char}, (∀ d ∈ cs, Hex.isLower d = true) → '-' ∉ cs :=
    fun hlower hmem => (Hex.isLower_facts (hlower '-' hmem)).2.2.1 rfl
  have hkept : ∀ {id : String}, (∀ d ∈ id.toList, Hex.isLower d = true) →
      String.ofList (id.toList.map Char.toLower) = id := by
    intro id hlower
    have hsame : id.toList.map Char.toLower = id.toList.map fun d => d :=
      List.map_congr_left fun d hd => (Hex.isLower_facts (hlower d hd)).2.1
    rw [hsame, List.map_id', String.ofList_toList]
  have hpieces : splitAt '-' c.render.toList =
      [['0', '0'], c.traceId.toList, c.spanId.toList, Hex.fixed 2 c.flags.toNat] := by
    rw [toList_render, splitAt_append_cons (by decide),
      splitAt_append_cons (hdash h.traceId.isLower), splitAt_append_cons (hdash h.spanId.isLower),
      splitAt_of_not_mem (hdash fun _ => Hex.isLower_of_mem_fixed)]
  rw [parse?, htrim, hpieces]
  simp only [h.traceId.isId, h.spanId.isId, and_self, if_true, readFlags?_fixed, Option.map_some,
    hkept h.traceId.isLower, hkept h.spanId.isLower]

end Context

end ScriptClient.Trace
