import ScriptClient.Json

set_option autoImplicit false

/-! # Reading JSON

A reader of JSON texts whose numbers are integers, as strict as the grammar: blanks may stand only
between the parts of a text, a control character never stands for itself inside quotes, a number
has no zeros before its other digits, and no comma stands before a closing bracket. Half of a
surrogate pair stands for no character. Members are read in the order of the text and with all
their repetitions, so nothing is lost on the way to the value. -/

namespace ScriptClient.Json

/-! ## Characters inside quotes -/

/-- What the letters of short escapes stand for. -/
def shortEscapes : List (Char × Char) :=
  [('"', '"'), ('\\', '\\'), ('/', '/'), ('b', '\x08'), ('f', '\x0c'), ('n', '\n'), ('r', '\r'),
    ('t', '\t')]

/-- The number in four hexadecimal digits, and what follows them. -/
def readUnit? : List Char → Option (Nat × List Char)
  | a :: b :: c :: d :: rest => do
    let a ← Text.Hex.value? a
    let b ← Text.Hex.value? b
    let c ← Text.Hex.value? c
    let d ← Text.Hex.value? d
    some (((a * 16 + b) * 16 + c) * 16 + d, rest)
  | _ => none

/-- The second half of a surrogate pair, escaped like the first, and what follows it. -/
def readLow? : List Char → Option (Nat × List Char)
  | '\\' :: 'u' :: rest => do
    let (low, rest) ← readUnit? rest
    if 0xdc00 ≤ low ∧ low < 0xe000 then some (low - 0xdc00, rest) else none
  | _ => none

/-- The character of a numbered escape: one number, or two that are a surrogate pair. -/
def readNumbered? (cs : List Char) : Option (Char × List Char) := do
  let (unit, rest) ← readUnit? cs
  if unit < 0xd800 ∨ 0xe000 ≤ unit then some (Char.ofNat unit, rest)
  else if unit < 0xdc00 then do
    let (low, rest) ← readLow? rest
    some (Char.ofNat (0x10000 + (unit - 0xd800) * 0x400 + low), rest)
  else none

/-- The character of an escape, after its backslash. -/
def readEscape? : List Char → Option (Char × List Char)
  | [] => none
  | c :: rest =>
    if c = 'u' then readNumbered? rest else (shortEscapes.lookup c).map fun d => (d, rest)

/-- One character inside quotes, and what follows it. -/
def readChar? : List Char → Option (Char × List Char)
  | [] => none
  | c :: rest =>
    if c = '\\' then readEscape? rest
    else if c = '"' ∨ c.toNat < 0x20 then none
    else some (c, rest)

/-- The characters up to the closing quote, and what follows it. -/
def readText : (fuel : Nat) → List Char → Option (List Char × List Char)
  | 0, _ => none
  | fuel + 1, cs =>
    if cs.head? = some '"' then some ([], cs.tail)
    else do
      let (c, rest) ← readChar? cs
      let (cs, rest) ← readText fuel rest
      some (c :: cs, rest)

/-! ## Between values -/

/-- Whether the character may stand between the parts of a text. -/
def isSpace (c : Char) : Bool :=
  c = ' ' || c = '\t' || c = '\n' || c = '\r'

/-- Drops the blanks in front. -/
def skipSpace (cs : List Char) : List Char :=
  cs.dropWhile isSpace

/-- What follows a mark, if that comes next. -/
def expect? (mark : Char) (cs : List Char) : Option (List Char) :=
  match skipSpace cs with
  | [] => none
  | c :: rest => if c = mark then some rest else none

/-! ## Values -/

/-- What follows a word, if the text begins with it. -/
def readWord? (word : String) (v : Json) (cs : List Char) : Option (Json × List Char) :=
  if word.toList.isPrefixOf cs then some (v, cs.drop word.toList.length) else none

/-- A number without a sign, and what follows it. -/
def readNatural? (cs : List Char) : Option (Nat × List Char) :=
  let digits := cs.takeWhile Char.isDigit
  if digits = [] ∨ (digits.head? = some '0' ∧ 1 < digits.length) then none
  else some (Nat.ofDigitChars 10 digits 0, cs.dropWhile Char.isDigit)

/-- A number, and what follows it. -/
def readNumber? (cs : List Char) : Option (Json × List Char) :=
  if cs.head? = some '-' then (readNatural? cs.tail).map fun (n, rest) => (.number (-n), rest)
  else (readNatural? cs).map fun (n, rest) => (.number n, rest)

/-- One thing or more with commas between them and a closing mark after the last, and what follows
it. -/
def readMany {α : Type} (read : List Char → Option (α × List Char)) (closing : Char) :
    (fuel : Nat) → List Char → Option (List α × List Char)
  | 0, _ => none
  | fuel + 1, cs => do
    let (a, rest) ← read cs
    match expect? ',' rest with
    | some rest => (readMany read closing fuel rest).map fun (others, rest) => (a :: others, rest)
    | none => (expect? closing rest).map fun rest => ([a], rest)

/-- Any number of things with commas between them up to a closing mark, and what follows it. -/
def readAll {α : Type} (read : List Char → Option (α × List Char)) (closing : Char) (fuel : Nat)
    (cs : List Char) : Option (List α × List Char) :=
  match expect? closing cs with
  | some rest => some ([], rest)
  | none => readMany read closing fuel cs

/-- A name and a value, and what follows them. -/
def readMember (read : List Char → Option (Json × List Char)) (fuel : Nat) (cs : List Char) :
    Option ((String × Json) × List Char) := do
  let rest ← expect? '"' cs
  let (k, rest) ← readText fuel rest
  let rest ← expect? ':' rest
  let (v, rest) ← read rest
  some ((String.ofList k, v), rest)

/-- A value, and what follows it. -/
def readValue : (fuel : Nat) → List Char → Option (Json × List Char)
  | 0, _ => none
  | fuel + 1, cs =>
    match skipSpace cs with
    | [] => none
    | c :: rest =>
      if c = '"' then (readText fuel rest).map fun (s, rest) => (.text (String.ofList s), rest)
      else if c = '[' then
        (readAll (readValue fuel) ']' fuel rest).map fun (items, rest) => (.array items, rest)
      else if c = '\x7b' then
        (readAll (readMember (readValue fuel) fuel) '\x7d' fuel rest).map
          fun (members, rest) => (.object members, rest)
      else if c = 'n' then readWord? "null" .null (c :: rest)
      else if c = 't' then readWord? "true" (.bool true) (c :: rest)
      else if c = 'f' then readWord? "false" (.bool false) (c :: rest)
      else readNumber? (c :: rest)

/-- The value that a text is, if it is one. No value takes more steps than its text has
characters. -/
def read? (text : String) : Option Json :=
  match readValue text.toList.length text.toList with
  | some (v, rest) => if skipSpace rest = [] then some v else none
  | none => none

end ScriptClient.Json
