set_option autoImplicit false

/-! # Paths with a query

The part of a URI after the authority, and the path of a call. A fragment is cut off, and
characters that a path or a query may not hold are refused. Characters beyond ASCII are let
through. -/

namespace ScriptClient.Endpoint

/-- Whether no path and no query may hold the character: controls, the blank, and delete. -/
def isControl (c : Char) : Bool :=
  c.toNat < 0x21 || c.toNat = 0x7f

/-- Whether a path may hold the character. -/
def isPathChar (c : Char) : Bool :=
  !isControl c && c != '<' && c != '>' && c.toNat != 0x60

/-- Whether a query may hold the character. -/
def isQueryChar (c : Char) : Bool :=
  !isControl c && c != '"' && c != '<' && c != '>'

/-- The path and query that begin a text, without its fragment. -/
def pathAndQuery? (cs : List Char) : Option (List Char) :=
  let whole := cs.takeWhile (· ≠ '#')
  let path := whole.takeWhile (· ≠ '?')
  let query := whole.dropWhile (· ≠ '?')
  if path.all isPathChar ∧ query.all isQueryChar then some whole else none

end ScriptClient.Endpoint
