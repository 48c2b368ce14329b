import ScriptClient.Calendar
import ScriptClient.Text.Decimal

set_option autoImplicit false

/-! # Timestamps

Moments of UTC, and their text in the form `YYYY-MM-DDTHH:MM:SS.mmmZ`. -/

namespace ScriptClient

/-- A moment, counted from the start of 1970. -/
structure Timestamp where
  seconds : Nat
  millis : Nat
  deriving DecidableEq, Repr

namespace Timestamp

/-- The characters of a moment's text. -/
def write (t : Timestamp) : List Char :=
  let date := Date.ofDays (t.seconds / 86400 : Nat)
  let second := t.seconds % 86400
  Text.Decimal.padded 4 date.year.toNat ++ '-' :: Text.Decimal.padded 2 date.month ++
    '-' :: Text.Decimal.padded 2 date.day ++ 'T' :: Text.Decimal.padded 2 (second / 3600) ++
    ':' :: Text.Decimal.padded 2 (second % 3600 / 60) ++ ':' :: Text.Decimal.padded 2 (second % 60) ++
    '.' :: Text.Decimal.padded 3 t.millis ++ ['Z']

/-- The text of a moment. -/
def render (t : Timestamp) : String :=
  String.ofList t.write

end Timestamp

end ScriptClient
