import ScriptClient.Log.Filter
import ScriptClient.Log.Line
import ScriptClient.Settings.Logging

set_option autoImplicit false

/-! # Display of events

The line that a log with given settings shows for an event, if it shows the event at all. -/

namespace ScriptClient.Log

/-- The filter of a log. One that cannot be used counts as the default. -/
def filterOf (settings : Settings.Logging) : Filter :=
  ((Filter.parse settings.filter).toOption.or (Filter.parse Settings.defaultFilter).toOption).getD []

/-- A value in a line for people. -/
def Value.plain : Value → String
  | .text s => Text.Quoted.encode s
  | .shown s => s
  | .number n => toString n
  | .bool b => toString b

namespace Event

/-- The line of an event for people, without its end. -/
def plainLine (time : String) (e : Event) : String :=
  let message := e.fields.filterMap fun f => if f.1 = messageField then some f.2.plain else none
  let others := e.fields.filterMap fun f =>
    if f.1 = messageField then none else some (f.1 ++ "=" ++ f.2.plain)
  time ++ " " ++ e.level.name ++ " " ++ e.target ++ ": " ++ " ".intercalate (message ++ others)

/-- The line that a log shows for an event. -/
def display? (settings : Settings.Logging) (time : String) (e : Event) : Option String :=
  if (filterOf settings).shows e then
    match settings.format with
    | .json => some (e.line settings.serviceName time)
    | .text => some (e.plainLine time)
  else none

end Event

end ScriptClient.Log
