import ScriptClient.Text.Blank

set_option autoImplicit false

/-! # Modes of patterns

Flags in a pattern change how what follows them is read. This module holds the flags in force, and
what they say about blanks and comments (`Mode.skip`). -/

namespace ScriptClient.Text.Pattern

/-- The flags in force that decide whether a text is a pattern. -/
structure Mode where
  /-- Patterns speak of all characters; else of bytes, of which only ASCII may be named. -/
  unicode : Bool := true
  /-- Letters stand for both of their cases. -/
  anyCase : Bool := false
  /-- Blanks and comments may stand between the parts of a pattern. -/
  spaced : Bool := false
  deriving DecidableEq, Repr

namespace Mode

/-! ## Flags -/

/-- The letters of the flags. -/
def flagLetters : List Char := "imsUuRx".toList

/-- Whether the text sets flags: letters that differ, and at most one dash, which is not last. -/
def areFlags (cs : List Char) : Bool :=
  cs.all (fun c => c = '-' || flagLetters.contains c) && cs.Nodup && cs.getLast? ≠ some '-'

/-- The mode after setting flags: on before the dash, off after it. -/
def set (m : Mode) (flags : List Char) : Mode :=
  let on := flags.takeWhile (· ≠ '-')
  let off := flags.dropWhile (· ≠ '-')
  let value (letter : Char) (before : Bool) : Bool :=
    on.contains letter || before && !off.contains letter
  ⟨value 'u' m.unicode, value 'i' m.anyCase, value 'x' m.spaced⟩

/-- Whether characters may be named. The cases of letters are known for ASCII alone, so no character
may be named where patterns speak of all characters in any case. -/
def namesCharacters (m : Mode) : Bool :=
  !(m.unicode && m.anyCase)

/-! ## Blanks and comments -/

/-- Drops blanks and comments. A comment begins with a number sign and ends with its line. -/
def dropSpace : (inComment : Bool) → List Char → List Char
  | _, [] => []
  | true, c :: rest => dropSpace (c ≠ '\n') rest
  | false, c :: rest =>
    if isBlank c then dropSpace false rest
    else if c = '#' then dropSpace true rest
    else c :: rest

/-- Drops the blanks and comments that the mode allows. -/
def skip (m : Mode) (cs : List Char) : List Char :=
  if m.spaced then dropSpace false cs else cs

/-- The character that tells what a dash before the text stands for: the first one, past the blanks
and one number sign if the mode allows comments. -/
def ahead? (m : Mode) (cs : List Char) : Option Char :=
  if m.spaced then
    match cs.dropWhile isBlank with
    | '#' :: rest => (rest.dropWhile isBlank).head?
    | rest => rest.head?
  else cs.head?

end Mode

end ScriptClient.Text.Pattern
