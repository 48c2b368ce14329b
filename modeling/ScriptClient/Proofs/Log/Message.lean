import Mathlib.Data.String.Basic
import ScriptClient.Proofs.Log.Line
import ScriptClient.Proofs.Text.Pieces

set_option autoImplicit false

/-! # Messages in log lines

What a reader of a log line finds as the message of its event. A message that was recorded as a text
is found as it is; one that was recorded through the text it is shown by has lost the quotes at its
ends, so it is found as it is exactly if there are none (`stripQuotes_eq_self_iff`). Numbers and
truth values are no messages, and are found among the data whatever their name
(`isSome_shownDatum?_line`). -/

namespace ScriptClient

namespace Json

/-- The value of an object's member with a name. -/
def member? (name : String) : Json → Option Json
  | .object members => lookupEntry name members
  | _ => none

/-- The characters of a text value. -/
def text? : Json → Option String
  | .text s => some s
  | _ => none

end Json

namespace Log

/-! ## Reading a line -/

/-- The message in a log line. -/
def shownMessage? (line : String) : Option String := do
  let message ← (← Json.read? line).member? "msg"
  message.text?

/-- The value under a name among the data in a log line. -/
def shownDatum? (line name : String) : Option Json := do
  let data ← (← Json.read? line).member? "data"
  data.member? name

/-- The last field of an event with the name of the message has this value. -/
def Event.MessageIs (e : Event) (v : Value) : Prop :=
  ∃ before after, e.fields = before ++ (messageField, v) :: after ∧
    ∀ field ∈ after, field.1 ≠ messageField

/-! ## Quotes -/

/-- The text has a quote at neither end. -/
def Unquoted (s : String) : Prop :=
  s.toList.head? ≠ some '"' ∧ s.toList.getLast? ≠ some '"'

instance : DecidablePred Unquoted := fun _ => instDecidableAnd

/-- Drops the quotes at the end. -/
def dropEndQuotes (s : String) : String :=
  String.ofList (Text.dropTrailing (· = '"') s.toList)

theorem forall_ne_quote_iff {o : Option Char} :
    (∀ c, o = some c → decide (c = '"') = false) ↔ o ≠ some '"' := by
  refine ⟨fun h heq => absurd (h '"' heq) (by decide), fun h c hc => decide_eq_false ?_⟩
  rintro rfl
  exact h hc

theorem stripQuotes_eq_self_iff {s : String} : Collected.stripQuotes s = s ↔ Unquoted s := by
  rw [Collected.stripQuotes, String.ofList_eq, Text.stripBoth_eq_self_iff, forall_ne_quote_iff,
    forall_ne_quote_iff, Unquoted]

theorem dropEndQuotes_eq_self_iff {s : String} :
    dropEndQuotes s = s ↔ s.toList.getLast? ≠ some '"' := by
  rw [dropEndQuotes, String.ofList_eq, Text.dropTrailing_eq_self_iff, forall_ne_quote_iff]

/-- Behind a front without quotes at its ends, quotes are only dropped at the end. -/
theorem stripQuotes_append {front : String} (hne : front ≠ "") (hfront : Unquoted front)
    (s : String) : Collected.stripQuotes (front ++ s) = front ++ dropEndQuotes s := by
  have hcs : front.toList ≠ [] := fun h => hne (String.toList_eq_nil_iff.mp h)
  have hhead : (front ++ s).toList.dropWhile (· = '"') = front.toList ++ s.toList := by
    rw [String.toList_append, Text.dropWhile_eq_self, forall_ne_quote_iff,
      List.head?_append_of_ne_nil _ hcs]
    exact hfront.1
  have hlast := List.getLast?_eq_some_getLast hcs
  rw [Collected.stripQuotes, Text.stripBoth, hhead,
    Text.dropTrailing_append hlast (forall_ne_quote_iff.mpr hfront.2 _ hlast), dropEndQuotes,
    String.ofList_append, String.ofList_toList]

/-! ## Messages and data of an event -/

section

variable {e : Event}

theorem Event.MessageIs.message?_eq {v : Value} {s : String} (h : e.MessageIs v)
    (hv : v.message? = some s) : e.message? = some s := by
  obtain ⟨before, after, hfields, hafter⟩ := h
  have hlast : fieldMessage? (messageField, v) = some s := (if_pos rfl).trans hv
  have hnone : after.filterMap fieldMessage? = [] :=
    List.filterMap_eq_nil_iff.mpr fun field hmem => if_neg (hafter field hmem)
  rw [Event.message?, hfields, List.filterMap_append, List.filterMap_cons_some hlast, hnone,
    List.getLast?_concat]

variable (service time : String)

theorem shownMessage?_line :
    shownMessage? (e.line service time) = some (e.message?.getD "") := by
  rw [shownMessage?, Event.line, Json.read?_render, Event.toJson, Collected.message_ofFields,
    Event.message?]
  rfl

theorem shownDatum?_line (name : String) :
    shownDatum? (e.line service time) name = (e.datum? name).map Value.toJson := by
  rw [Event.datum?, ← Collected.get?_ofFields, shownDatum?, Event.line, Json.read?_render]
  rfl

/-- There is a message among the data exactly if a number or a truth value was recorded as one. -/
theorem isSome_shownDatum?_line (e : Event) :
    (shownDatum? (e.line service time) messageField).isSome ↔
      (∃ n, (messageField, .number n) ∈ e.fields) ∨ ∃ b, (messageField, .bool b) ∈ e.fields := by
  have hdatum : ∀ field : String × Value, fieldDatum? messageField field ≠ none ↔
      (∃ n, field = (messageField, .number n)) ∨ ∃ b, field = (messageField, .bool b) := by
    rintro ⟨name, value⟩
    cases value <;> simp [fieldDatum?, fieldMessage?, Value.message?]
  rw [shownDatum?_line, Option.isSome_map, Event.datum?, List.getLast?_isSome, ne_eq,
    List.filterMap_eq_nil_iff, not_forall]
  constructor
  · rintro ⟨field, hfield⟩
    obtain ⟨hmem, hsome⟩ := Classical.not_imp.mp hfield
    rcases (hdatum field).mp hsome with ⟨n, rfl⟩ | ⟨b, rfl⟩
    · exact .inl ⟨n, hmem⟩
    · exact .inr ⟨b, hmem⟩
  · rintro (⟨n, hmem⟩ | ⟨b, hmem⟩)
    · exact ⟨_, Classical.not_imp.mpr ⟨hmem, (hdatum _).mpr (.inl ⟨n, rfl⟩)⟩⟩
    · exact ⟨_, Classical.not_imp.mpr ⟨hmem, (hdatum _).mpr (.inr ⟨b, rfl⟩)⟩⟩

end

end Log

end ScriptClient
