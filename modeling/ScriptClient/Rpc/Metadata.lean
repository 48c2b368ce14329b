import ScriptClient.Text.Utf8

set_option autoImplicit false

/-! # Metadata of calls

What is sent beside the message of a call: values under keys, in the order of their first
insertion. A value holds no control byte but the tab. -/

namespace ScriptClient.Rpc

/-- Values under keys. -/
structure Metadata where
  entries : List (String × List UInt8) := []
  deriving DecidableEq

namespace Metadata

instance : EmptyCollection Metadata := ⟨{}⟩

/-- Whether the bytes may be a value: no byte below `0x20` but the tab, and not `0x7f`. -/
def isValue (value : List UInt8) : Bool :=
  value.all fun b => (0x20 ≤ b || b = 0x09) && b != 0x7f

/-- Replaces the first entry of a key and drops the other ones, or appends an entry. -/
def insertValue (key : String) (value : List UInt8) :
    List (String × List UInt8) → List (String × List UInt8)
  | [] => [(key, value)]
  | e :: rest =>
    if e.1 = key then (key, value) :: rest.filter (·.1 ≠ key) else e :: insertValue key value rest

/-- Puts a value under a key, in the place of those it has. -/
def insert (m : Metadata) (key : String) (value : List UInt8) : Metadata :=
  ⟨insertValue key value m.entries⟩

/-- Puts a text under a key, if its bytes may be a value. -/
def insertText (m : Metadata) (key : String) (text : String) : Metadata :=
  let value := Text.Utf8.encode text
  if isValue value then m.insert key value else m

/-- The first value under a key. -/
def get? (m : Metadata) (key : String) : Option (List UInt8) :=
  (m.entries.find? (·.1 = key)).map (·.2)

/-- The number of entries. -/
def size (m : Metadata) : Nat :=
  m.entries.length

end Metadata

end ScriptClient.Rpc
