import ScriptClient.Text.Pattern.Escape

set_option autoImplicit false

/-! # Classes in patterns

A class names characters between square brackets: characters, ranges, named classes and other
classes, and operators between them. `closeClass?` reads a class to its end and keeps only how deep
it is nested. Where patterns speak of bytes nothing may be negated, neither a class nor a named
class in it: a complement has all bytes beyond ASCII, which are parts of characters. -/

namespace ScriptClient.Text.Pattern

/-- One deeper than the deepest of several parts; a part that is alone counts itself. -/
def joinedDepth : List Nat → Nat
  | [] => 0
  | [n] => n
  | ns => 1 + ns.foldl max 0

/-- A class of which the end is not read yet. -/
structure Class where
  /-- How deep that is nested which stands before the last operator, if there is one. -/
  left : Option Nat := none
  /-- How deep each member since then is nested. -/
  members : List Nat := []
  /-- Whether nothing but dashes was named. -/
  fresh : Bool := true
  deriving DecidableEq, Repr

namespace Class

/-- Adds a member. -/
def add (c : Class) (depth : Nat) : Class :=
  { c with members := depth :: c.members, fresh := false }

/-- How deep that is nested which was named. -/
def depth (c : Class) : Nat :=
  match c.left with
  | none => joinedDepth c.members
  | some left => 1 + max left (joinedDepth c.members)

/-- Goes on after an operator. -/
def operate (c : Class) : Class :=
  { left := some c.depth, fresh := false }

/-- Reads what follows the opening bracket and gives what follows a caret, if there is one and the
class may be negated. -/
def start? (m : Mode) (cs : List Char) : Option (List Char) :=
  match m.skip cs with
  | '^' :: rest => if m.unicode then some rest else none
  | rest => some rest

/-- Reads an operator: intersection, difference or symmetric difference. -/
def operator? : List Char → Option (List Char)
  | '&' :: '&' :: rest => some rest
  | '-' :: '-' :: rest => some rest
  | '~' :: '~' :: rest => some rest
  | _ => none

/-! ## Members -/

/-- The names of the classes of ASCII characters. -/
def asciiNames : List String :=
  ["alnum", "alpha", "ascii", "blank", "cntrl", "digit", "graph", "lower", "print", "punct",
    "space", "upper", "word", "xdigit"]

/-- Reads what follows the opening bracket of a named class, such as `:alpha:]` or `:^alpha:]`, and
tells whether it is negated. -/
def asciiNamed? : List Char → Option (Bool × List Char)
  | ':' :: cs =>
    let negated := cs.head? = some '^'
    let cs := if negated then cs.tail else cs
    if asciiNames.contains (String.ofList (cs.takeWhile (· ≠ ':'))) then
      match cs.dropWhile (· ≠ ':') with
      | ':' :: ']' :: rest => some (negated, rest)
      | _ => none
    else none
  | _ => none

/-- Reads a character or an escape that names characters. -/
def item? (m : Mode) : List Char → Option (Escape × List Char)
  | [] => none
  | c :: rest =>
    match if c = '\\' then Escape.read? m rest else some (.literal c, rest) with
    | some (.literal d, rest') =>
      if m.unicode ∨ d.toNat < 0x80 then some (.literal d, rest') else none
    | some (.oneOf, rest') => some (.oneOf, rest')
    | _ => none

/-- Reads an item, or a range of characters from one item to another. A dash before a bracket or
another dash makes no range. -/
def range? (m : Mode) (cs : List Char) : Option (List Char) :=
  match item? m cs with
  | none => none
  | some (first, rest) =>
    match m.skip rest with
    | '-' :: rest' =>
      if m.ahead? rest' = some ']' ∨ m.ahead? rest' = some '-' then some ('-' :: rest')
      else
        match first, item? m (m.skip rest') with
        | .literal c, some (.literal d, rest'') => if c ≤ d then some rest'' else none
        | _, _ => none
    | rest' => some rest'

end Class

/-- Reads to the end of the class `c`, with the classes `outer` open around it, and gives how deep
the outermost is nested and what follows it. Dashes that come first name themselves, as does a
closing bracket that comes first. Every step takes a character at least, so `fuel` may be the number
of characters. -/
def closeClass? (m : Mode) :
    (fuel : Nat) → (c : Class) → (outer : List Class) → List Char → Option (Nat × List Char)
  | 0, _, _, _ => none
  | fuel + 1, c, outer, cs =>
    match m.skip cs with
    | [] => none
    | '[' :: rest =>
      match Class.asciiNamed? rest with
      | some (negated, rest') =>
        if m.namesCharacters ∧ (m.unicode ∨ ¬ negated) then
          closeClass? m fuel (c.add 0) outer rest'
        else none
      | none =>
        match Class.start? m rest with
        | some rest' => closeClass? m fuel {} (c :: outer) rest'
        | none => none
    | d :: rest =>
      if c.fresh ∧ (d = '-' ∨ d = ']' ∧ c.members = []) then
        if m.namesCharacters then
          closeClass? m fuel { c.add 0 with fresh := d = '-' } outer rest
        else none
      else if d = ']' then
        match outer with
        | [] => some (c.depth + 1, rest)
        | parent :: outer' => closeClass? m fuel (parent.add (c.depth + 1)) outer' rest
      else
        match Class.operator? (d :: rest) with
        | some rest' => closeClass? m fuel c.operate outer rest'
        | none =>
          match Class.range? m (d :: rest) with
          | some rest' =>
            if m.namesCharacters then closeClass? m fuel (c.add 0) outer rest' else none
          | none => none

end ScriptClient.Text.Pattern
