import Mathlib.Data.List.Induction
import ScriptClient.Proofs.Rpc.Metadata
import ScriptClient.Trace.Context

set_option autoImplicit false

/-! # Contexts that are put into metadata

Contexts may be made of any texts, and the text of a context may have bytes that metadata cannot
hold. Such a context is left out and changes nothing. So after any sequence of contexts the key has
the text of the last one that could be put in, and what it had before if there is none
(`injections_settled`). -/

namespace ScriptClient.Trace.Context

open Rpc Text

/-! ## One context -/

/-- The text of the context may be a value: it has no byte below `0x20` but the tab, and not
`0x7f`. -/
def HasValue (c : Context) : Prop :=
  ∀ b ∈ Utf8.encode c.render, (0x20 ≤ b.toNat ∨ b.toNat = 0x09) ∧ b.toNat ≠ 0x7f

instance : DecidablePred HasValue := fun _ => List.decidableBAll _ _

theorem isValue_iff {c : Context} :
    Metadata.isValue (Utf8.encode c.render) = true ↔ c.HasValue := by
  simp only [Metadata.isValue, HasValue, List.all_eq_true, Bool.and_eq_true, Bool.or_eq_true,
    decide_eq_true_eq, bne_iff_ne, UInt8.le_iff_toNat_le, ← UInt8.toNat_inj, ne_eq]
  rfl

/-- A context that has a value replaces what is under its key. -/
theorem inject_of_hasValue {c : Context} (h : c.HasValue) (m : Metadata) :
    c.inject m = m.insert metadataKey (Utf8.encode c.render) :=
  if_pos (isValue_iff.mpr h)

/-- A context that has no value changes nothing. -/
theorem inject_of_not_hasValue {c : Context} (h : ¬ c.HasValue) (m : Metadata) : c.inject m = m :=
  if_neg fun hvalue => h (isValue_iff.mp hvalue)

theorem others_inject (c : Context) (m : Metadata) :
    (c.inject m).others metadataKey = m.others metadataKey := by
  by_cases h : c.HasValue
  · rw [inject_of_hasValue h, Metadata.others_insert]
  · rw [inject_of_not_hasValue h]

/-! ## Many contexts -/

/-- Puts contexts into metadata one after the other. -/
def injectAll (cs : List Context) (m : Metadata) : Metadata :=
  cs.foldl (fun m c => c.inject m) m

theorem injectAll_concat (cs : List Context) (c : Context) (m : Metadata) :
    injectAll (cs ++ [c]) m = c.inject (injectAll cs m) := by
  simp [injectAll]

/-- The last of the contexts that has a value. -/
def lastWithValue? (cs : List Context) : Option Context :=
  (cs.filter (·.HasValue)).getLast?

theorem lastWithValue?_concat (cs : List Context) (c : Context) :
    lastWithValue? (cs ++ [c]) = if c.HasValue then some c else lastWithValue? cs := by
  rw [lastWithValue?, List.filter_append]
  by_cases h : c.HasValue
  · simp [h]
  · simp [h, lastWithValue?]

theorem valuesOf_injectAll (cs : List Context) (m : Metadata) :
    (injectAll cs m).valuesOf metadataKey =
      match lastWithValue? cs with
      | some c => [Utf8.encode c.render]
      | none => m.valuesOf metadataKey := by
  induction cs using List.reverseRecOn with
  | nil => rfl
  | append_singleton cs c ih =>
    rw [injectAll_concat, lastWithValue?_concat]
    by_cases h : c.HasValue
    · rw [inject_of_hasValue h, Metadata.valuesOf_insert, if_pos rfl, if_pos h]
    · rw [inject_of_not_hasValue h, ih, if_neg h]

theorem others_injectAll (cs : List Context) (m : Metadata) :
    (injectAll cs m).others metadataKey = m.others metadataKey := by
  induction cs using List.reverseRecOn with
  | nil => rfl
  | append_singleton cs c ih => rw [injectAll_concat, others_inject, ih]

theorem forall_not_hasValue {cs : List Context} (h : lastWithValue? cs = none) :
    ∀ c ∈ cs, ¬ c.HasValue := by
  intro c hc hvalue
  have hmem : c ∈ cs.filter (·.HasValue) := List.mem_filter.mpr ⟨hc, decide_eq_true hvalue⟩
  rw [List.getLast?_eq_none_iff.mp h] at hmem
  exact List.not_mem_nil hmem

/-- Contexts of which none has a value change nothing at all. -/
theorem injectAll_eq_self {cs : List Context} (h : ∀ c ∈ cs, ¬ c.HasValue) (m : Metadata) :
    injectAll cs m = m := by
  induction cs with
  | nil => rfl
  | cons c cs ih =>
    rw [List.forall_mem_cons] at h
    show injectAll cs (c.inject m) = m
    rw [inject_of_not_hasValue h.1, ih h.2]

/-- **Contexts put into metadata.** After any sequence of contexts, metadata with at most one entry
under their key has at most one there: the text of the last context whose text may be a value. If
there is none, all metadata is as it was. In any case the entries under other keys stay as they are,
in their order. -/
theorem injections_settled (cs : List Context) {m : Metadata}
    (h : (m.valuesOf metadataKey).length ≤ 1) :
    let after := injectAll cs m
    (after.valuesOf metadataKey).length ≤ 1 ∧
      after.valuesOf metadataKey =
        (match lastWithValue? cs with
        | some c => [Utf8.encode c.render]
        | none => m.valuesOf metadataKey) ∧
      (lastWithValue? cs = none → after = m) ∧
      after.others metadataKey = m.others metadataKey := by
  intro after
  have hvalues : after.valuesOf metadataKey = _ := valuesOf_injectAll cs m
  refine ⟨?_, hvalues, fun hnone => injectAll_eq_self (forall_not_hasValue hnone) m,
    others_injectAll cs m⟩
  rw [hvalues]
  cases lastWithValue? cs with
  | some c => exact Nat.le_refl 1
  | none => exact h

/-- A context with a tab and a letter beyond ASCII has a value, and stays after one with a line
break, which has none. -/
theorem injections_settled_before_line_break :
    let m : Metadata := ⟨[("x-request-id", [0x31]), (metadataKey, [0x32])]⟩
    let told : Context := ⟨"a\tb", "é", 1⟩
    let torn : Context := ⟨"a\nb", "é", 1⟩
    (m.valuesOf metadataKey).length ≤ 1 ∧
      (injectAll [told, torn] m).valuesOf metadataKey = [Utf8.encode told.render] ∧
      (injectAll [told, torn] m).others metadataKey = [("x-request-id", [0x31])] := by
  intro m told torn
  have hone : (m.valuesOf metadataKey).length ≤ 1 := by decide
  have hlast : lastWithValue? [told, torn] = some told := by decide +kernel
  obtain ⟨-, hvalues, -, hothers⟩ := injections_settled [told, torn] hone
  rw [hlast] at hvalues
  exact ⟨hone, hvalues, hothers⟩

end ScriptClient.Trace.Context
