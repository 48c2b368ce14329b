import ScriptClient.Text.Quoted

set_option autoImplicit false

/-! # Events

What a run tells its log: a level, the part of the program it comes from, and named fields. The
field `message` is the message of the event; like every field it was recorded in some way, and the
way decides how it is shown. -/

namespace ScriptClient.Log

/-- How much an event matters, least first. -/
inductive Level where
  | trace
  | debug
  | info
  | warn
  | error
  deriving DecidableEq, Repr

namespace Level

/-- The name of a level in a log line, where traces count as debugging. -/
def name : Level → String
  | trace => "debug"
  | debug => "debug"
  | info => "info"
  | warn => "warn"
  | error => "error"

/-- How many levels are shown by a log that shows this level and all that matter more. -/
def verbosity : Level → Nat
  | error => 1
  | warn => 2
  | info => 3
  | debug => 4
  | trace => 5

/-- The level with a name in capital letters. -/
def ofName? (s : String) : Option Level :=
  if s = "TRACE" then some trace
  else if s = "DEBUG" then some debug
  else if s = "INFO" then some info
  else if s = "WARN" then some warn
  else if s = "ERROR" then some error
  else none

end Level

/-- A value as it was recorded. -/
inductive Value where
  /-- A text as it is. -/
  | text (s : String)
  /-- Any value, through the text it is shown by. -/
  | shown (s : String)
  /-- A number of 64 bits, signed or not. -/
  | number (n : Int)
  /-- A truth value. -/
  | bool (b : Bool)
  deriving DecidableEq, Repr

/-- What a run tells its log. -/
structure Event where
  level : Level
  /-- The part of the program that the event comes from. -/
  target : String
  fields : List (String × Value)
  deriving DecidableEq, Repr

/-- The name of the field that is the message. -/
def messageField : String := "message"

namespace Event

/-- An event with a message made of words. -/
def say (level : Level) (target message : String) (fields : List (String × Value)) : Event :=
  ⟨level, target, (messageField, .shown message) :: fields⟩

end Event

end ScriptClient.Log
