set_option autoImplicit false

/-! # Tallies

How many calls of a run completed and how many failed. -/

namespace ScriptClient.Demonstration

/-- Completed and failed calls. -/
structure Tally where
  succeeded : Nat := 0
  failed : Nat := 0
  deriving DecidableEq, Repr

namespace Tally

/-- The tally with one call more. -/
def record (t : Tally) (ok : Bool) : Tally :=
  if ok then { t with succeeded := t.succeeded + 1 } else { t with failed := t.failed + 1 }

/-- The number of calls. -/
def total (t : Tally) : Nat := t.succeeded + t.failed

@[simp]
theorem total_record (t : Tally) (ok : Bool) : (t.record ok).total = t.total + 1 := by
  cases ok <;> simp only [record, total] <;> grind

end Tally

end ScriptClient.Demonstration
