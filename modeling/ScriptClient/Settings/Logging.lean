import ScriptClient.Settings.Environment
import ScriptClient.Settings.Problem

set_option autoImplicit false

/-! # Settings of the log

Which events are shown, in which format, and under which service name. -/

namespace ScriptClient.Settings

/-- How events are shown. -/
inductive LogFormat where
  /-- For people. -/
  | text
  /-- One JSON object a line. -/
  | json
  deriving DecidableEq, Repr

/-- The filter when none is set: warnings and errors of the program. -/
def defaultFilter : String := "tokio_php_client=warn"

/-- The service name when none is set. -/
def defaultServiceName : String := "tokio_php_client"

/-- Which events are shown, and how. -/
structure Logging where
  filter : String := defaultFilter
  format : LogFormat := .text
  serviceName : String := defaultServiceName
  deriving DecidableEq, Repr

namespace Logging

/-- The words that `LOG_LEVEL` may be, in any case of letters. -/
def levelWords : List String := ["trace", "debug", "info", "warn", "error"]

/-- The level in the environment, in lowercase. -/
def levelWord? (env : Environment) : Option String :=
  (env.get? "LOG_LEVEL").map fun s => String.ofList (Text.lowercase s.toList)

/-- The filter that the environment asks for: a level for the program, else a filter as it stands
in `RUST_LOG`, else the default. -/
def loadFilter (env : Environment) : String :=
  match (levelWord? env).filter levelWords.contains with
  | some level => "tokio_php_client=" ++ level
  | none => env.getD "RUST_LOG" defaultFilter

/-- What is said about a level that is none of the words. -/
def levelWarning? (env : Environment) : Option String :=
  ((levelWord? env).filter fun level => !levelWords.contains level).map fun level =>
    "Warning: Invalid LOG_LEVEL '" ++ level ++ "', expected: " ++ ", ".intercalate levelWords

/-- The format that the environment asks for. -/
def loadFormat (env : Environment) : Except Problem LogFormat :=
  match env.getNonempty? "LOG_FORMAT" with
  | none => .ok .text
  | some value =>
    let word := String.ofList (Text.lowercase value.toList)
    if word = "text" then .ok .text
    else if word = "json" then .ok .json
    else .error (.invalid "LOG_FORMAT" ("expected 'text' or 'json', got '" ++ word ++ "'"))

/-- The log that the environment asks for. -/
def load (env : Environment) : Except Problem Logging :=
  match loadFormat env with
  | .error p => .error p
  | .ok format => .ok ⟨loadFilter env, format, env.getD "SERVICE_NAME" defaultServiceName⟩

end Logging

end ScriptClient.Settings
