set_option autoImplicit false

/-! # Authorities

The part of a URI that names the host: optional user information before an `@`, a host that may be
an address in brackets, and an optional number after a colon. What stands after the colon is not
looked at. -/

namespace ScriptClient.Endpoint

/-- Whether an authority may hold the character anywhere. -/
def isAuthorityChar (c : Char) : Bool :=
  c.isAlphanum || "!$&'()*+,-.:;=@[]_~".toList.contains c

/-- What a scan of an authority remembers: the colons and percent signs since the last `@` or
closing bracket, and which brackets were met. -/
structure Scan where
  colons : Nat := 0
  percent : Bool := false
  opened : Bool := false
  closed : Bool := false
  deriving DecidableEq

/-- The most colons that may stand before the next `@` or closing bracket. -/
def maxColons : Nat := 8

/-- Takes one character into account. -/
def Scan.step? (s : Scan) (c : Char) : Option Scan :=
  if c = '%' then some { s with percent := true }
  else if c = ':' then (if s.colons < maxColons then some { s with colons := s.colons + 1 } else none)
  else if c = '[' then (if s.percent ∨ s.opened then none else some { s with opened := true })
  else if c = ']' then
    (if s.opened ∧ ¬ s.closed then some { s with closed := true, colons := 0, percent := false }
    else none)
  else if c = '@' then some { s with colons := 0, percent := false }
  else if isAuthorityChar c then some s
  else none

/-- Whether the text may be an authority. -/
def isAuthority (cs : List Char) : Bool :=
  match cs.foldlM Scan.step? {} with
  | none => false
  | some s =>
    cs ≠ [] && s.opened = s.closed && s.colons ≤ 1 && !s.percent && cs.getLast? ≠ some '@'

end ScriptClient.Endpoint
