import ScriptClient.Text.Hex

set_option autoImplicit false

/-! # Identifiers of traces and spans

An identifier is made from a clock reading, mixed with a count so that identifiers made within one
tick of the clock differ. Its lowest bit is set, so it is never all zeros. -/

namespace ScriptClient.Trace

/-- What an identifier is made from: a clock reading in nanoseconds, and a count that is different
for each identifier of a process. -/
structure Tick where
  clock : UInt64
  count : UInt64
  deriving DecidableEq, Repr

namespace Tick

/-- The upper half of a trace identifier. -/
def traceHigh (t : Tick) : UInt64 :=
  t.clock ^^^ (t.count * 0x517cc1b727220a95)

/-- The lower half of a trace identifier. -/
def traceLow (t : Tick) : UInt64 :=
  (t.count ^^^ (t.clock * 0x2545f4914f6cdd1d)) ||| 1

/-- The number of a span identifier. -/
def span (t : Tick) : UInt64 :=
  (t.clock ^^^ (t.count * 0x9e3779b97f4a7c15)) ||| 1

end Tick

/-- The lowest bit is set, so the number is odd. -/
theorem toNat_or_one_mod_two (n : UInt64) : (n ||| 1).toNat % 2 = 1 := by
  rw [UInt64.toNat_or]
  exact Nat.or_mod_two_eq_one.mpr (.inr rfl)

/-- The 16 digits of a 64-bit number. -/
def wordDigits (n : UInt64) : List Char :=
  Text.Hex.fixed 16 n.toNat

/-- A trace identifier of 32 digits. -/
def freshTraceId (t : Tick) : String :=
  String.ofList (wordDigits t.traceHigh ++ wordDigits t.traceLow)

/-- A span identifier of 16 digits. -/
def freshSpanId (t : Tick) : String :=
  String.ofList (wordDigits t.span)

end ScriptClient.Trace
