import Mathlib.Data.List.Induction
import ScriptClient.Log.Line
import ScriptClient.Proofs.Json.RoundTrip
import ScriptClient.Proofs.SortedMap

set_option autoImplicit false

/-! # What a log line holds

An event is read back from its line: each part of it stands in one place, with the value that was
recorded, and nothing that is recorded can reach into another part or into another line
(`line_reads_back`). What counts of several fields with one name is the last. -/

namespace ScriptClient.Log

/-! ## What is recorded -/

/-- The text of a value as a message. Numbers and truth values are no messages. -/
def Value.message? : Value → Option String
  | .text s => some s
  | .shown s => some (Collected.stripQuotes s)
  | .number _ => none
  | .bool _ => none

/-- A value as it is shown among the data. -/
def Value.toJson : Value → Json
  | .text s => .text s
  | .shown s => .text s
  | .number n => .number n
  | .bool b => .bool b

/-- The text of a field that is the message. -/
def fieldMessage? (field : String × Value) : Option String :=
  if field.1 = messageField then field.2.message? else none

/-- The value of a field that has a name and is not the message. -/
def fieldDatum? (name : String) (field : String × Value) : Option Value :=
  if field.1 = name ∧ fieldMessage? field = none then some field.2 else none

namespace Event

/-- The message of an event, if it has one. -/
def message? (e : Event) : Option String :=
  (e.fields.filterMap fieldMessage?).getLast?

/-- The value under a name in the data of an event, if there is one. -/
def datum? (e : Event) (name : String) : Option Value :=
  (e.fields.filterMap (fieldDatum? name)).getLast?

end Event

/-! ## What is collected -/

namespace Collected

/-- A field is the message, or it goes to the data. -/
theorem add_eq (c : Collected) (field : String × Value) :
    c.add field.1 field.2 =
      match fieldMessage? field with
      | some message => { c with message := some message }
      | none => { c with data := c.data.insert field.1 field.2.toJson } := by
  obtain ⟨name, value⟩ := field
  cases value with
  | text s =>
    rw [add, fieldMessage?]
    split <;> rfl
  | shown s =>
    rw [add, fieldMessage?]
    split <;> rfl
  | number n =>
    rw [add, fieldMessage?, Value.message?, ite_self]
    rfl
  | bool b =>
    rw [add, fieldMessage?, Value.message?, ite_self]
    rfl

theorem ofFields_append (fields : List (String × Value)) (field : String × Value) :
    ofFields (fields ++ [field]) = (ofFields fields).add field.1 field.2 := by
  rw [ofFields, List.foldl_append]
  rfl

theorem message_ofFields (fields : List (String × Value)) :
    (ofFields fields).message = (fields.filterMap fieldMessage?).getLast? := by
  induction fields using List.reverseRecOn with
  | nil => rfl
  | append_singleton fields field ih =>
    rw [ofFields_append, add_eq, List.filterMap_append]
    cases h : fieldMessage? field with
    | some message => simp [h]
    | none => simp [h, ih]

theorem get?_ofFields (fields : List (String × Value)) (name : String) :
    (ofFields fields).data.get? name =
      ((fields.filterMap (fieldDatum? name)).getLast?).map Value.toJson := by
  induction fields using List.reverseRecOn with
  | nil => rfl
  | append_singleton fields field ih =>
    rw [ofFields_append, add_eq, List.filterMap_append]
    cases h : fieldMessage? field with
    | some message => simp [fieldDatum?, h, ih]
    | none =>
      by_cases hname : field.1 = name
      · simp [fieldDatum?, h, hname, SortedMap.get?_insert]
      · simp [fieldDatum?, h, hname, SortedMap.get?_insert, ih, Ne.symm hname]

end Collected

/-- **Log lines.** The line of an event has no control character, so it is one line, and reading it
gives an object with six members: the service, the data, the level, the message, the time and the
type. The data are what was recorded under names other than that of the message, each name with its
last value; the type tells errors from all else. -/
theorem line_reads_back (service time : String) (e : Event) :
    (∀ c ∈ (e.line service time).toList, 0x20 ≤ c.toNat) ∧
      ∃ (data : SortedMap Json) (kind : String),
        Json.read? (e.line service time) = some (.object [
          ("ctx", .object [("service", .text service)]),
          ("data", .object data.entries),
          ("level", .text e.level.name),
          ("msg", .text (e.message?.getD "")),
          ("ts", .text time),
          ("type", .text kind)]) ∧
        (∀ name, data.get? name = (e.datum? name).map Value.toJson) ∧
        (kind = "error" ↔ e.level = .error) := by
  refine ⟨?_, (Collected.ofFields e.fields).data, if e.level = .error then "error" else "app", ?_,
    Collected.get?_ofFields e.fields, ?_⟩
  · rw [Event.line, Json.render, String.toList_ofList]
    exact (e.toJson service time).no_control_write
  · rw [Event.line, Json.read?_render, Event.toJson, Collected.message_ofFields, Event.message?]
  · split
    next h => exact ⟨fun _ => h, fun _ => rfl⟩
    next h => exact ⟨fun hkind => absurd hkind (by decide), fun herror => absurd herror h⟩

end ScriptClient.Log
