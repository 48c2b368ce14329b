import ScriptClient.Text.Blank
import ScriptClient.Text.Decimal
import ScriptClient.Text.Lowercase
import ScriptClient.Text.Pieces

set_option autoImplicit false

/-! # Timeouts

A length of time in a setting: a number with the unit `ms`, `s`, `m` or `h`, seconds without a
unit, or `off`. A length that does not fit 64 bits of its smaller unit is refused and never
wrapped. -/

namespace ScriptClient

/-- A length of time. -/
structure Timeout where
  seconds : Nat
  nanos : Nat
  deriving DecidableEq, Repr

namespace Timeout

/-- So many whole seconds. -/
def ofSeconds (n : Nat) : Timeout := ⟨n, 0⟩

/-- So many thousandths of a second. -/
def ofMillis (n : Nat) : Timeout := ⟨n / 1000, n % 1000 * 1000000⟩

/-- The length in whole thousandths of a second. -/
def toMillis (t : Timeout) : Nat := t.seconds * 1000 + t.nanos / 1000000

@[simp]
theorem toMillis_ofMillis (n : Nat) : (ofMillis n).toMillis = n := by
  simp only [toMillis, ofMillis]
  omega

/-- Why a text is no length of time. -/
inductive Fault where
  /-- What stands before a unit is no number, or the length is too large. -/
  | badNumber (digits : List Char)
  /-- The text has no unit and is no number. -/
  | badLength (text : List Char)
  deriving DecidableEq

/-- The words for a fault. -/
def Fault.message : Fault → String
  | .badNumber digits => "invalid number: " ++ String.ofList digits
  | .badLength text => "invalid duration: " ++ String.ofList text

/-- Reads a number of units of `factor` seconds. -/
def readUnits (factor : Nat) (digits : List Char) : Except Fault (Option Timeout) :=
  match Text.Decimal.unsigned? digits with
  | none => .error (.badNumber digits)
  | some n =>
    if n * factor < UInt64.size then .ok (some (ofSeconds (n * factor)))
    else .error (.badNumber digits)

/-- Reads a text that is trimmed and in lowercase. -/
def readPlain (cs : List Char) : Except Fault (Option Timeout) :=
  if cs = [] ∨ cs = ['o', 'f', 'f'] ∨ cs = ['0'] then .ok none
  else
    match Text.dropEnding? ['m', 's'] cs with
    | some digits =>
      match Text.Decimal.unsigned? digits with
      | none => .error (.badNumber digits)
      | some n => .ok (some (ofMillis n))
    | none =>
    match Text.dropEnding? ['s'] cs with
    | some digits => readUnits 1 digits
    | none =>
    match Text.dropEnding? ['m'] cs with
    | some digits => readUnits 60 digits
    | none =>
    match Text.dropEnding? ['h'] cs with
    | some digits => readUnits 3600 digits
    | none =>
      match Text.Decimal.unsigned? cs with
      | none => .error (.badLength cs)
      | some n => .ok (some (ofSeconds n))

/-- Reads the length of time in a setting; `none` stands for no timeout. Blanks around it and the
case of letters do not matter. -/
def read (s : String) : Except Fault (Option Timeout) :=
  readPlain (Text.lowercase (Text.trim s.toList))

end Timeout

end ScriptClient
