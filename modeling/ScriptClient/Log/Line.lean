import ScriptClient.Json
import ScriptClient.Log.Event
import ScriptClient.SortedMap
import ScriptClient.Text.Blank

set_option autoImplicit false

/-! # Log lines

An event as one line of JSON. The message stands under `msg`, the other fields stand under `data`
in the order of their names. A message that was recorded through the text it is shown by loses the
quotes at both ends; a number or truth value named `message` is a field like any other. -/

namespace ScriptClient.Log

/-- What the fields of an event come to: the message, and the data. -/
structure Collected where
  message : Option String := none
  data : SortedMap Json := ∅

namespace Collected

/-- Drops the quotes at both ends. -/
def stripQuotes (s : String) : String :=
  String.ofList (Text.stripBoth (· = '"') s.toList)

/-- Takes one field into account. -/
def add (c : Collected) (name : String) (value : Value) : Collected :=
  match value with
  | .text s =>
    if name = messageField then { c with message := some s }
    else { c with data := c.data.insert name (.text s) }
  | .shown s =>
    if name = messageField then { c with message := some (stripQuotes s) }
    else { c with data := c.data.insert name (.text s) }
  | .number n => { c with data := c.data.insert name (.number n) }
  | .bool b => { c with data := c.data.insert name (.bool b) }

/-- What the fields come to, the last one of a name counting. -/
def ofFields (fields : List (String × Value)) : Collected :=
  fields.foldl (fun c field => c.add field.1 field.2) {}

end Collected

namespace Event

/-- What an event is shown as: the members are in the order of their names. -/
def toJson (service time : String) (e : Event) : Json :=
  let collected := Collected.ofFields e.fields
  .object [
    ("ctx", .object [("service", .text service)]),
    ("data", .object collected.data.entries),
    ("level", .text e.level.name),
    ("msg", .text (collected.message.getD "")),
    ("ts", .text time),
    ("type", .text (if e.level = .error then "error" else "app"))]

/-- The line of an event, without its end. -/
def line (service time : String) (e : Event) : String :=
  (e.toJson service time).render

end Event

end ScriptClient.Log
