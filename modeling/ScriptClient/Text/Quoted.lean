import ScriptClient.Text.Hex
import ScriptClient.Text.Printable

set_option autoImplicit false

/-! # Quoted texts

A text in double quotes on one line. Quotes, backslashes and the common controls have short
escapes; every other character that has no visible form of its own is written as its code point. -/

namespace ScriptClient.Text.Quoted

/-- One character inside the quotes. -/
def escape (c : Char) : List Char :=
  if c = '\x00' then ['\\', '0']
  else if c = '\t' then ['\\', 't']
  else if c = '\r' then ['\\', 'r']
  else if c = '\n' then ['\\', 'n']
  else if c = '"' then ['\\', '"']
  else if c = '\\' then ['\\', '\\']
  else if isExtender c || !isPrintable c then
    ['\\', 'u', '\x7b'] ++ Hex.digits c.toNat ++ ['\x7d']
  else [c]

/-- The text in double quotes. -/
def encode (s : String) : String :=
  String.ofList ('"' :: s.toList.flatMap escape ++ ['"'])

end ScriptClient.Text.Quoted
