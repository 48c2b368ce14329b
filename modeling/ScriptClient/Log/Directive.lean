import ScriptClient.Log.Event
import ScriptClient.Text.Alphanumeric
import ScriptClient.Text.Blank
import ScriptClient.Text.Decimal
import ScriptClient.Text.Pattern
import ScriptClient.Text.Position

set_option autoImplicit false

/-! # Directives

One rule of a filter: up to which verbosity events are shown whose target begins with a given text,
and that have a given field. The form is `target[span{field=value}]=level`, and every part may be
left out. Where a part begins and ends is told from the directive without the blanks around it, but
the part is then cut out of the directive as it stands (`Directive.part`): trailing blanks belong to
the last part, and leading ones shift every part, which may tear a character. -/

namespace ScriptClient.Log

/-- Why a filter cannot be used. -/
inductive FilterError where
  /-- It does not have the form of a filter. -/
  | unreadable
  /-- A part of it begins or ends inside a character. -/
  | torn
  deriving DecidableEq, Repr

/-- A condition that events or spans have a field, and a pattern for its value if there is one. -/
structure FieldCondition where
  name : List Char
  value : Option (List Char)
  deriving DecidableEq, Repr

/-- One rule of a filter. -/
structure Directive where
  /-- What the targets begin with; `none` fits every target. -/
  target : Option (List Char) := none
  /-- The name of the span around the events, if the rule speaks of one. -/
  span : Option (List Char) := none
  /-- The field that the events have, if the rule speaks of one. -/
  field : Option FieldCondition := none
  /-- How many levels are shown. -/
  verbosity : Nat := Level.trace.verbosity
  deriving DecidableEq, Repr

namespace FieldCondition

/-- Whether the text is a number without its sign, be it infinite or no number at all. -/
def isUnsignedNumber (cs : List Char) : Bool :=
  let lower := String.ofList (cs.map Char.toLower)
  let digits := cs.takeWhile Char.isDigit
  let rest := cs.dropWhile Char.isDigit
  let fraction := if rest.head? = some '.' then rest.tail.takeWhile Char.isDigit else []
  let afterFraction := if rest.head? = some '.' then rest.tail.dropWhile Char.isDigit else rest
  let exponent :=
    match afterFraction with
    | [] => true
    | e :: cs =>
      let cs := if cs.head? = some '+' ∨ cs.head? = some '-' then cs.tail else cs
      (e = 'e' || e = 'E') && cs ≠ [] && cs.all Char.isDigit
  ["inf", "infinity", "nan"].contains lower || ((digits ≠ [] || fraction ≠ []) && exponent)

/-- Whether the text may stand for a value: a number or a pattern. Of the numbers only those with a
plus sign are no patterns. -/
def isValue (cs : List Char) : Bool :=
  Text.isPattern cs || (cs.head? = some '+' && isUnsignedNumber cs.tail)

/-- Reads `name` or `name=value`. What follows another equals sign is passed over. -/
def parse? (cs : List Char) : Option FieldCondition :=
  let name := cs.takeWhile (· ≠ '=')
  match cs.dropWhile (· ≠ '=') with
  | [] => some ⟨name, none⟩
  | _ :: rest =>
    let value := rest.takeWhile (· ≠ '=')
    if isValue value then some ⟨name, some value⟩ else none

end FieldCondition

namespace Directive

/-! ## Reading directives

What follows reads a directive part by part. `whole` is the directive as it stands, `d` what was read
of it, and `cs` what is left of the directive without its blanks, from position `start` on. -/

/-- The verbosity that a word or a number stands for. -/
def verbosity? (cs : List Char) : Option Nat :=
  match Text.Decimal.unsigned? cs with
  | some n => if n ≤ Level.trace.verbosity then some n else none
  | none =>
    match String.ofList (cs.map Char.toLower) with
    | "off" => some 0
    | "error" => some Level.error.verbosity
    | "warn" => some Level.warn.verbosity
    | "info" => some Level.info.verbosity
    | "debug" => some Level.debug.verbosity
    | "trace" => some Level.trace.verbosity
    | _ => none

/-- Cuts out the part between two positions. -/
def part (whole : List Char) (start stop : Nat) : Except FilterError (List Char) :=
  match Text.cut? start stop whole with
  | some cs => .ok cs
  | none => .error .torn

/-- Reads the level, which is the last part. An empty one shows all levels. -/
def readLevel (whole : List Char) (d : Directive) (start : Nat) : Except FilterError Directive := do
  let word ← part whole start (Text.byteCount whole)
  if word = [] then return d
  match verbosity? word with
  | some v => return { d with verbosity := v }
  | none => throw .unreadable

/-- Reads what follows the brackets: nothing, or a level. -/
def readAfterBrackets (whole : List Char) (d : Directive) (start : Nat) :
    (cs : List Char) → Except FilterError Directive
  | [] => .ok d
  | '=' :: _ => readLevel whole d (start + 1)
  | _ => .error .unreadable

/-- Reads the field, which goes up to a closing brace, and what follows it. -/
def readField (whole : List Char) (d : Directive) (start : Nat) (cs : List Char) :
    Except FilterError Directive :=
  let stop := start + Text.byteCount (cs.takeWhile (· ≠ '\x7d'))
  match cs.dropWhile (· ≠ '\x7d') with
  | [] => throw .unreadable
  | _ :: rest => do
    let field ← part whole start stop
    match field, FieldCondition.parse? field, rest with
    | _ :: _, some condition, ']' :: rest' =>
      readAfterBrackets whole { d with field := some condition } (stop + 2) rest'
    | _, _, _ => throw .unreadable

/-- Reads the span, which goes up to a bracket or an opening brace, and what follows it. -/
def readSpan (whole : List Char) (d : Directive) (start : Nat) (cs : List Char) :
    Except FilterError Directive :=
  let endsName (c : Char) : Bool := c = ']' || c = '\x7b'
  let stop := start + Text.byteCount (cs.takeWhile (!endsName ·))
  match cs.dropWhile (!endsName ·) with
  | [] => throw .unreadable
  | c :: rest => do
    let name ← part whole start stop
    if c = ']' then readAfterBrackets whole { d with span := some name } (stop + 1) rest
    else
      let span := if name = [] then none else some name
      readField whole { d with span } (stop + 1) rest

/-- Whether a directive may begin with the character, if not with a bracket. -/
def isFirst (c : Char) : Bool :=
  c = '-' || c = ':' || c = '_' || Text.isAlphanumeric c

/-- Reads a directive that does not begin with a bracket: a target and what follows it, or one word,
which is a level or a target. -/
def readTarget (whole cs : List Char) : Except FilterError Directive :=
  let endsTarget (c : Char) : Bool := c = '=' || c = '['
  let stop := Text.byteCount (cs.takeWhile (!endsTarget ·))
  match cs.dropWhile (!endsTarget ·) with
  | [] =>
    match verbosity? whole with
    | some v => return { verbosity := v }
    | none => return { target := some whole }
  | c :: rest => do
    let d : Directive := { target := some (← part whole 0 stop) }
    if c = '=' then readLevel whole d (stop + 1) else readSpan whole d (stop + 1) rest

/-- Reads a directive. -/
def parse (whole : List Char) : Except FilterError Directive :=
  match Text.trim whole with
  | [] => .error .unreadable
  | '[' :: rest => readSpan whole {} 1 rest
  | c :: rest => if isFirst c then readTarget whole (c :: rest) else .error .unreadable

/-! ## Events -/

/-- Whether the directive speaks of an event. One that names a span or the value of a field speaks
of spans. -/
def fits (d : Directive) (e : Event) : Bool :=
  d.span.isNone &&
    (match d.target with
      | none => true
      | some front => front.isPrefixOf e.target.toList) &&
    (match d.field with
      | none => true
      | some ⟨name, none⟩ => e.fields.any fun f => f.1.toList = name
      | some ⟨_, some _⟩ => false)

/-- How closely the directive speaks of the targets that it fits. -/
def weight (d : Directive) : Nat :=
  match d.target with
  | none => 0
  | some front => front.length + 1

/-- Whether the second of two directives that fit an event goes before the first: it has the longer
target, or, with targets alike, a field where the first has none, or one whose name is not before
the other name. -/
def yieldsTo (b d : Directive) : Bool :=
  b.weight < d.weight ||
    (b.weight = d.weight &&
      match b.field, d.field with
      | none, _ => true
      | some _, none => false
      | some x, some y => ¬ String.ofList y.name < String.ofList x.name)

end Directive

end ScriptClient.Log
