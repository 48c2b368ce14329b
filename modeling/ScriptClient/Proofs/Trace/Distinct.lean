import Mathlib.Data.Nat.Bitwise
import ScriptClient.Proofs.Text.Hex
import ScriptClient.Trace.Id

set_option autoImplicit false

/-! # Identifiers made within one reading of the clock

While the clock stands still, identifiers differ by their counts alone. Counts are multiplied by odd
numbers, which have inverses among the 64-bit words, so no two counts are mixed into one word. Trace
identifiers show that word as it is. Span identifiers hide its lowest bit: two of them are equal
exactly if their counts lie the inverse of the factor apart (`span_eq_iff`), and that is too far for
one process to make both within a reading of its clock (`identifiers_distinct`). -/

namespace ScriptClient.Trace

open Text

/-! ## Written words -/

theorem wordDigits_inj {m n : UInt64} : wordDigits m = wordDigits n ↔ m = n := by
  constructor
  · intro h
    rw [wordDigits, wordDigits, Hex.fixed_inj m.toNat_lt n.toNat_lt] at h
    exact UInt64.toNat_inj.mp h
  · intro h
    rw [h]

theorem length_wordDigits (n : UInt64) : (wordDigits n).length = 16 :=
  Hex.length_fixed 16 n.toNat

theorem freshSpanId_inj {s t : Tick} : freshSpanId s = freshSpanId t ↔ s.span = t.span := by
  rw [freshSpanId, freshSpanId, String.ofList_inj, wordDigits_inj]

/-- Trace identifiers with different upper halves are different. -/
theorem traceHigh_eq_of_freshTraceId_eq {s t : Tick} (h : freshTraceId s = freshTraceId t) :
    s.traceHigh = t.traceHigh := by
  have hdigits := String.ofList_inj.mp h
  have hlength := (length_wordDigits s.traceHigh).trans (length_wordDigits t.traceHigh).symm
  exact wordDigits_inj.mp (List.append_inj hdigits hlength).1

/-! ## Words that are mixed -/

/-- Multiplication by a word that has an inverse keeps words apart. -/
theorem mul_left_inj_of_inverse {factor inverse : UInt64} (h : factor * inverse = 1)
    {a b : UInt64} : a * factor = b * factor ↔ a = b := by
  constructor
  · intro heq
    have hback := congrArg (· * inverse) heq
    simpa only [UInt64.mul_assoc, h, UInt64.mul_one] using hback
  · intro heq
    rw [heq]

/-- Words with the lowest bit set are equal exactly if the words agree in all other bits. -/
theorem or_one_eq_iff {a b : UInt64} : a ||| 1 = b ||| 1 ↔ a.toNat / 2 = b.toNat / 2 := by
  have hhalf : ∀ w : UInt64, (w ||| 1).toNat / 2 = w.toNat / 2 := by
    intro w
    rw [UInt64.toNat_or, Nat.or_div_two]
    exact Nat.or_zero _
  have ha := toNat_or_one_mod_two a
  have hb := toNat_or_one_mod_two b
  rw [← UInt64.toNat_inj, ← hhalf a, ← hhalf b]
  omega

/-- Mixing with one word keeps the other bits apart, too. -/
theorem xor_half_inj {c a b : UInt64} :
    (c ^^^ a).toNat / 2 = (c ^^^ b).toNat / 2 ↔ a.toNat / 2 = b.toNat / 2 := by
  rw [UInt64.toNat_xor, UInt64.toNat_xor, Nat.xor_div_two, Nat.xor_div_two, Nat.xor_right_inj]

/-- Words that agree in all bits but the lowest are equal, or an even word and the next one. -/
theorem half_eq_iff {a b : UInt64} :
    a.toNat / 2 = b.toNat / 2 ↔
      a = b ∨ (a.toNat % 2 = 0 ∧ b = a + 1) ∨ (b.toNat % 2 = 0 ∧ a = b + 1) := by
  have ha := a.toNat_lt
  have hb := b.toNat_lt
  have hone : (1 : UInt64).toNat = 1 := rfl
  simp only [← UInt64.toNat_inj, UInt64.toNat_add, hone]
  omega

/-! ## Spans of one clock reading -/

/-- The inverse of the factor for the counts of spans. -/
def spanGap : UInt64 := 0xf1de83e19937733d

/-- The counts are an even one and the one that lies the gap above it. -/
def Twins (c d : UInt64) : Prop :=
  c.toNat % 2 = 0 ∧ d = c + spanGap

/-- The factor is odd, so products are even where counts are. -/
theorem mul_factor_mod_two (c : UInt64) :
    (c * 0x9e3779b97f4a7c15).toNat % 2 = c.toNat % 2 := by
  have hfactor : (0x9e3779b97f4a7c15 : UInt64).toNat = 0x9e3779b97f4a7c15 := rfl
  rw [UInt64.toNat_mul, hfactor]
  omega

/-- The factor has an inverse, so different counts have different products. -/
theorem mul_factor_inj {c d : UInt64} :
    c * 0x9e3779b97f4a7c15 = d * 0x9e3779b97f4a7c15 ↔ c = d := by
  have hinverse : (0x9e3779b97f4a7c15 : UInt64) * spanGap = 1 := by decide
  exact mul_left_inj_of_inverse hinverse

theorem mul_factor_eq_succ_iff {c d : UInt64} :
    d * 0x9e3779b97f4a7c15 = c * 0x9e3779b97f4a7c15 + 1 ↔ d = c + spanGap := by
  have hgap : (spanGap * 0x9e3779b97f4a7c15 : UInt64) = 1 := by decide
  rw [← hgap, ← UInt64.add_mul, mul_factor_inj]

/-- **Spans of one clock reading** are equal exactly if their counts are, or are twins. -/
theorem span_eq_iff {clock c d : UInt64} :
    (Tick.mk clock c).span = (Tick.mk clock d).span ↔ c = d ∨ Twins c d ∨ Twins d c := by
  rw [Tick.span, Tick.span, or_one_eq_iff, xor_half_inj, half_eq_iff, mul_factor_mod_two,
    mul_factor_mod_two, mul_factor_inj, mul_factor_eq_succ_iff, mul_factor_eq_succ_iff, Twins,
    Twins]

/-- Twins are far apart, whichever way around one counts from one to the other. -/
theorem Twins.far {c d : UInt64} (h : Twins c d) :
    2 ^ 59 ≤ (d - c).toNat ∧ 2 ^ 59 ≤ (c - d).toNat := by
  have hgap : spanGap.toNat = 0xf1de83e19937733d := rfl
  have hc := c.toNat_lt
  rw [h.2]
  simp only [UInt64.toNat_sub, UInt64.toNat_add, hgap]
  omega

/-- Spans of one clock reading differ if fewer than `2 ^ 59` counts lead from one to the other. -/
theorem freshSpanId_ne {clock c d : UInt64} (hne : c ≠ d)
    (hnear : (d - c).toNat < 2 ^ 59 ∨ (c - d).toNat < 2 ^ 59) :
    freshSpanId ⟨clock, c⟩ ≠ freshSpanId ⟨clock, d⟩ := by
  rw [ne_eq, freshSpanId_inj, span_eq_iff]
  rintro (heq | htwins | htwins)
  · exact hne heq
  · have hfar := htwins.far
    omega
  · have hfar := htwins.far
    omega

theorem freshTraceId_ne {clock c d : UInt64} (hne : c ≠ d) :
    freshTraceId ⟨clock, c⟩ ≠ freshTraceId ⟨clock, d⟩ := by
  have hinverse : (0x517cc1b727220a95 : UInt64) * 0x2040003d780970bd = 1 := by decide
  intro h
  have hhigh := traceHigh_eq_of_freshTraceId_eq h
  rw [Tick.traceHigh, Tick.traceHigh, UInt64.xor_right_inj, mul_left_inj_of_inverse hinverse]
    at hhigh
  exact hne hhigh

/-! ## Identifiers of one process -/

/-- The ticks that a process makes one after the other while its clock stands still. Each has the
next count, and zero comes after the last word. -/
def ticksFrom (clock start : UInt64) (n : Nat) : List Tick :=
  (List.range n).map fun i => ⟨clock, start + UInt64.ofNat i⟩

/-- The counts of such ticks differ, and the way from one to a later one is short. -/
theorem pairwise_ticksFrom (clock start : UInt64) {n : Nat} (hn : n ≤ 2 ^ 64) :
    (ticksFrom clock start n).Pairwise fun s t => s.clock = t.clock ∧ s.count ≠ t.count ∧
      (t.count - s.count).toNat < n := by
  have hordered := List.Pairwise.and_mem.mp (List.pairwise_lt_range : (List.range n).Pairwise _)
  refine List.pairwise_map.mpr (hordered.imp ?_)
  rintro i j ⟨-, hj, hlt⟩
  have hjn : j < n := List.mem_range.mp hj
  have hway : (start + UInt64.ofNat j - (start + UInt64.ofNat i)).toNat = j - i := by
    have hstart := start.toNat_lt
    simp only [UInt64.toNat_sub, UInt64.toNat_add, UInt64.toNat_ofNat']
    omega
  refine ⟨rfl, fun heq => ?_, by rw [hway]; omega⟩
  have hcounts : start + UInt64.ofNat i = start + UInt64.ofNat j := heq
  rw [hcounts, UInt64.sub_self, UInt64.toNat_zero] at hway
  omega

/-- **Identifiers made within one reading of the clock.** Two trace identifiers with different
counts differ. Two span identifiers differ if their counts do and lie less than `2 ^ 59` apart,
although their lowest bit is always set. So no two identifiers are alike that a process makes while
its clock stands still, be they `2 ^ 64` of traces or `2 ^ 59` of spans. -/
theorem identifiers_distinct (clock : UInt64) :
    (∀ c d : UInt64, c ≠ d → freshTraceId ⟨clock, c⟩ ≠ freshTraceId ⟨clock, d⟩) ∧
      (∀ c d : UInt64, c ≠ d → c.toNat < d.toNat + 2 ^ 59 → d.toNat < c.toNat + 2 ^ 59 →
        freshSpanId ⟨clock, c⟩ ≠ freshSpanId ⟨clock, d⟩) ∧
      (∀ c : UInt64, (Tick.mk clock c).span.toNat % 2 = 1) ∧
      ∀ (start : UInt64) (n : Nat),
        (n ≤ 2 ^ 64 → ((ticksFrom clock start n).map freshTraceId).Nodup) ∧
          (n ≤ 2 ^ 59 → ((ticksFrom clock start n).map freshSpanId).Nodup) := by
  refine ⟨fun c d => freshTraceId_ne, fun c d hne hcd hdc => ?_, fun c => ?_, fun start n => ?_⟩
  · refine freshSpanId_ne hne ?_
    have hc := c.toNat_lt
    have hd := d.toNat_lt
    simp only [UInt64.toNat_sub]
    omega
  · rw [Tick.span]
    exact toNat_or_one_mod_two _
  · constructor
    · intro hn
      refine List.pairwise_map.mpr ((pairwise_ticksFrom clock start hn).imp ?_)
      rintro ⟨clock, c⟩ ⟨_, d⟩ ⟨rfl, hne, -⟩
      exact freshTraceId_ne hne
    · intro hn
      have hticks := pairwise_ticksFrom clock start (Nat.le_trans hn (by decide))
      refine List.pairwise_map.mpr (hticks.imp ?_)
      rintro ⟨clock, c⟩ ⟨_, d⟩ ⟨rfl, hne, hway⟩
      exact freshSpanId_ne hne (.inl (Nat.lt_of_lt_of_le hway hn))

/-- Counts that lie as far apart as the statement allows. -/
theorem identifiers_distinct_far_apart :
    (0 : UInt64) ≠ 0x7ffffffffffffff ∧
      (0x7ffffffffffffff : UInt64).toNat < (0 : UInt64).toNat + 2 ^ 59 ∧
      freshSpanId ⟨7, 0⟩ ≠ freshSpanId ⟨7, 0x7ffffffffffffff⟩ ∧
      ((ticksFrom 7 0xfffffffffffffffe 4).map freshSpanId).Nodup := by
  have hne : (0 : UInt64) ≠ 0x7ffffffffffffff := by decide
  have hnear : (0x7ffffffffffffff : UInt64).toNat < (0 : UInt64).toNat + 2 ^ 59 := by decide
  obtain ⟨-, hspans, -, hruns⟩ := identifiers_distinct 7
  exact ⟨hne, hnear, hspans _ _ hne (by decide) hnear, (hruns _ 4).2 (by decide)⟩

end ScriptClient.Trace
