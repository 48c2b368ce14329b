import ScriptClient.Text.Lowercase
import ScriptClient.Text.Utf8

set_option autoImplicit false

/-! # The environment

Variables with bytes as values. A variable whose bytes are no text counts as unset, so no reader of
a setting sees a difference between the two (`get?_eq_none_of_not_text`). -/

namespace ScriptClient.Settings

/-- The bytes of each variable that is set. -/
structure Environment where
  bytes? : String → Option (List UInt8)

namespace Environment

/-- The environment without variables. -/
def empty : Environment := ⟨fun _ => none⟩

/-- The environment with one variable set to bytes. -/
def set (e : Environment) (name : String) (value : List UInt8) : Environment :=
  ⟨fun n => if n = name then some value else e.bytes? n⟩

/-- The text of a variable. -/
def get? (e : Environment) (name : String) : Option String :=
  (e.bytes? name).bind Text.Utf8.decode?

theorem get?_eq_none_of_not_text (e : Environment) (name : String) (value : List UInt8)
    (h : Text.Utf8.decode? value = none) : (e.set name value).get? name = none := by
  simp [get?, set, h]

/-- The text of a variable, or a default. -/
def getD (e : Environment) (name default : String) : String :=
  (e.get? name).getD default

/-- The text of a variable, if it is not empty. -/
def getNonempty? (e : Environment) (name : String) : Option String :=
  (e.get? name).filter (· ≠ "")

/-- Whether a variable is `1` or, in any case of letters, `true`. -/
def getFlag (e : Environment) (name : String) (default : Bool) : Bool :=
  match e.get? name with
  | none => default
  | some value => value = "1" || Text.lowercase value.toList = ['t', 'r', 'u', 'e']

end Environment

end ScriptClient.Settings
