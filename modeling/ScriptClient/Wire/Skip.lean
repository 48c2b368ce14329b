import ScriptClient.Wire.Key

set_option autoImplicit false

/-! # Skipping fields

A reader passes over the fields it does not know. How deep groups may be nested in such a field is
limited by a budget; a field met when the budget is used up cannot be skipped. -/

namespace ScriptClient.Wire

/-- Passes over the fields of a group with `skipField`, up to the end marker with its tag. Every
field takes a byte at least, so `fuel` may be the number of bytes. -/
def skipGroup (skipField : (fuel : Nat) → Key → List UInt8 → Option (List UInt8)) (tag : Nat) :
    (fuel : Nat) → List UInt8 → Option (List UInt8)
  | 0, _ => none
  | fuel + 1, bytes =>
    match Key.read? bytes with
    | none => none
    | some (key, rest) =>
      if key.wire = .endGroup then (if key.tag = tag then some rest else none)
      else
        match skipField fuel key rest with
        | none => none
        | some rest' => skipGroup skipField tag fuel rest'

/-- Passes over the value of a field whose key was read, and gives the bytes after it. Again `fuel`
may be the number of bytes. -/
def skip : (budget fuel : Nat) → Key → List UInt8 → Option (List UInt8)
  | 0, _, _, _ => none
  | budget + 1, fuel, key, bytes =>
    match key.wire with
    | .varint => (Varint.read? bytes).map (·.2)
    | .fixed64 => (takeExact? 8 bytes).map (·.2)
    | .delimited => (readDelimited? bytes).map (·.2)
    | .startGroup => skipGroup (skip budget) key.tag fuel bytes
    | .endGroup => none
    | .fixed32 => (takeExact? 4 bytes).map (·.2)

end ScriptClient.Wire
