import ScriptClient.Text.Alphanumeric
import ScriptClient.Text.Pattern.Class

set_option autoImplicit false

/-! # Patterns

Which texts are patterns, that is regular expressions that an automaton can be made of. A pattern
is read from left to right (`Reader.step?`). Of what was read only the nesting is kept, since a
pattern may be nested no deeper than `nestingLimit`. -/

namespace ScriptClient.Text.Pattern

/-! ## Openings -/

/-- What an opening parenthesis begins. -/
inductive Opening where
  /-- A group that is read in a mode, with its name if it has one. -/
  | group (mode : Mode) (name : Option (List Char))
  /-- A change of the mode. -/
  | flags (mode : Mode)
  deriving DecidableEq, Repr

namespace Opening

/-- Whether the text may name a group. -/
def isName : List Char → Bool
  | [] => false
  | c :: rest =>
    (c = '_' || isAlphabetic c) && rest.all fun d => isAlphanumeric d || "_.[]".toList.contains d

/-- Reads a name and the bracket after it. -/
def named? (m : Mode) (cs : List Char) : Option (Opening × List Char) :=
  let name := cs.takeWhile (· ≠ '>')
  match cs.dropWhile (· ≠ '>') with
  | _ :: rest => if isName name then some (.group m (some name), rest) else none
  | [] => none

/-- Reads what follows an opening parenthesis. -/
def read? (m : Mode) : List Char → Option (Opening × List Char)
  | '?' :: 'P' :: '<' :: rest => named? m rest
  | '?' :: '<' :: rest => named? m rest
  | '?' :: rest =>
    let flags := rest.takeWhile fun c => c ≠ ':' && c ≠ ')'
    if Mode.areFlags flags then
      match rest.dropWhile fun c => c ≠ ':' && c ≠ ')' with
      | ':' :: rest' => some (.group (m.set flags) none, rest')
      | _ :: rest' => if flags = [] then none else some (.flags (m.set flags), rest')
      | [] => none
    else none
  | rest => some (.group m none, rest)

end Opening

/-! ## Nesting -/

/-- What was read of a group, or of the whole pattern. -/
structure Level where
  /-- How deep the branches are nested that are complete. -/
  branches : List Nat := []
  /-- How deep each item of the last branch is nested, the last item first. Flags are items without
  a depth, which cannot be repeated. -/
  items : List (Option Nat) := []
  deriving DecidableEq, Repr

namespace Level

/-- How deep the last branch is nested. -/
def branch (l : Level) : Nat :=
  joinedDepth (l.items.map (·.getD 0))

/-- How deep the level is nested. -/
def depth (l : Level) : Nat :=
  joinedDepth (l.branch :: l.branches)

/-- Adds an item to the last branch. -/
def add (l : Level) (item : Option Nat) : Level :=
  { l with items := item :: l.items }

/-- Begins another branch. -/
def alternate (l : Level) : Level :=
  { branches := l.branch :: l.branches }

/-- Repeats the last item, if there is one. -/
def repeat? (l : Level) : Option Level :=
  match l.items with
  | some n :: items => some { l with items := some (n + 1) :: items }
  | _ => none

end Level

/-! ## Whole patterns -/

/-- The state of reading a pattern. -/
structure Reader where
  mode : Mode := {}
  /-- The innermost open group. -/
  level : Level := {}
  /-- The groups around it, each with its mode. -/
  outer : List (Mode × Level) := []
  /-- The names that groups have. -/
  names : List (List Char) := []
  deriving DecidableEq, Repr

namespace Reader

/-- Adds an item to the innermost group. -/
def add (r : Reader) (depth : Nat) : Reader :=
  { r with level := r.level.add (some depth) }

/-- Adds a character, if the mode allows to name it. -/
def addLiteral? (r : Reader) : Option Reader :=
  if r.mode.namesCharacters then some (r.add 0) else none

/-- Reads what begins with the character `c`. Classes are read to their end, for which `fuel` may be
the number of characters. -/
def step? (r : Reader) (fuel : Nat) (c : Char) (rest : List Char) : Option (Reader × List Char) :=
  match c with
  | '(' =>
    match Opening.read? r.mode (r.mode.skip rest) with
    | none => none
    | some (.flags mode, rest') => some ({ r with mode := mode, level := r.level.add none }, rest')
    | some (.group mode name, rest') =>
      if r.names.any fun taken => name = some taken then none
      else some (⟨mode, {}, (r.mode, r.level) :: r.outer, name.toList ++ r.names⟩, rest')
  | ')' =>
    match r.outer with
    | [] => none
    | (mode, level) :: outer =>
      some ({ r with mode, level := level.add (some (r.level.depth + 1)), outer }, rest)
  | '|' => some ({ r with level := r.level.alternate }, rest)
  | '[' =>
    match Class.start? r.mode rest with
    | none => none
    | some rest' =>
      (closeClass? r.mode fuel {} [] rest').map fun (depth, rest'') => (r.add depth, rest'')
  | '\\' =>
    match Escape.read? r.mode rest with
    | none => none
    | some (.literal _, rest') => r.addLiteral?.map fun r' => (r', rest')
    | some (_, rest') => some (r.add 0, rest')
  | '.' => if r.mode.unicode then some (r.add 0, rest) else none
  | '^' => some (r.add 0, rest)
  | '$' => some (r.add 0, rest)
  | '\x7b' => none
  | _ =>
    if c = '*' ∨ c = '+' ∨ c = '?' then
      r.level.repeat?.map fun level =>
        ({ r with level }, if rest.head? = some '?' then rest.tail else rest)
    else r.addLiteral?.map fun r' => (r', rest)

/-- How deep a pattern is nested, given its end. Every step takes a character at least, so `fuel`
may be the number of characters. -/
def finish? : (fuel : Nat) → Reader → List Char → Option Nat
  | fuel, r, cs =>
    match fuel, r.mode.skip cs with
    | _, [] => if r.outer = [] then some r.level.depth else none
    | 0, _ :: _ => none
    | fuel + 1, c :: rest =>
      match r.step? fuel c rest with
      | some (r', rest') => finish? fuel r' rest'
      | none => none

end Reader

/-- How deep patterns may be nested. -/
def nestingLimit : Nat := 250

end Pattern

/-- Whether the text is a pattern. A brace that opens a count has to be closed, so it is refused in
a text without closing braces. -/
def isPattern (cs : List Char) : Bool :=
  match Pattern.Reader.finish? cs.length {} cs with
  | some depth => depth ≤ Pattern.nestingLimit
  | none => false

end ScriptClient.Text
