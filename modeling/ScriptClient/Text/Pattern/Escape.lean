import ScriptClient.Text.Hex
import ScriptClient.Text.Pattern.Mode

set_option autoImplicit false

/-! # Escapes in patterns

What a backslash and the characters after it stand for. The classes of digits, letters and blanks
and the edges of words are known for ASCII alone, so they are refused where patterns speak of all
characters; what would match a part of a character is refused as well. -/

namespace ScriptClient.Text.Pattern

/-- What an escape stands for. -/
inductive Escape where
  /-- One character. -/
  | literal (c : Char)
  /-- Any character of a class. -/
  | oneOf
  /-- An edge of the text or of a word. -/
  | edge
  deriving DecidableEq, Repr

namespace Escape

/-- The characters with a short escape, and what it stands for. -/
def short : List (Char × Char) :=
  [('a', '\x07'), ('f', '\x0c'), ('t', '\t'), ('n', '\n'), ('r', '\r'), ('v', '\x0b')]

/-- The escapes that write a code point, and how many hexadecimal digits they have. -/
def numbered : List (Char × Nat) :=
  [('x', 2), ('u', 4), ('U', 8)]

/-- Reads `count` hexadecimal digits after those that stand for `n`. -/
def digits? (m : Mode) : (count n : Nat) → List Char → Option (Nat × List Char)
  | 0, n, cs => some (n, cs)
  | _ + 1, _, [] => none
  | count + 1, n, c :: rest =>
    match Hex.value? c with
    | some d => digits? m count (16 * n + d) (m.skip rest)
    | none => none

/-- Reads what follows a backslash. -/
def read? (m : Mode) : List Char → Option (Escape × List Char)
  | [] => none
  | c :: rest =>
    match numbered.lookup c with
    | some count =>
      match digits? m count 0 (m.skip rest) with
      | some (n, rest') =>
        if ¬ n.isValidChar ∨ c = 'x' ∧ ¬ m.unicode ∧ 0x80 ≤ n then none
        else some (.literal (Char.ofNat n), rest')
      | none => none
    | none =>
      if "dsw".toList.contains c then (if m.unicode then none else some (.oneOf, rest))
      else if "bB<>".toList.contains c then (if m.unicode then none else some (.edge, rest))
      else if c = 'A' ∨ c = 'z' then some (.edge, rest)
      else
        match short.lookup c with
        | some d => some (.literal d, rest)
        | none =>
          if c.toNat < 0x80 ∧ ¬ c.isAlphanum then some (.literal c, rest) else none

end Escape

end ScriptClient.Text.Pattern
