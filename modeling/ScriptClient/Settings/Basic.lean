import ScriptClient.Log.Event
import ScriptClient.Settings.Connection
import ScriptClient.Settings.Logging

set_option autoImplicit false

/-! # All settings

The settings of a run: the connection and the log. The connection is loaded first, so its problems
are the ones reported when both have some. -/

namespace ScriptClient

/-- The settings of a run. -/
structure Settings where
  connection : Settings.Connection := {}
  logging : Settings.Logging := {}
  deriving DecidableEq, Repr

namespace Settings

/-- The settings that the environment asks for. -/
def load (env : Environment) : Except Problem Settings :=
  match Connection.load env with
  | .error p => .error p
  | .ok connection =>
    match Logging.load env with
    | .error p => .error p
    | .ok logging => .ok ⟨connection, logging⟩

/-- What is logged about the connection once the log is up. -/
def Connection.summary (c : Connection) : List Log.Event :=
  let say (level : Log.Level) (text : String) : Log.Event :=
    .say level "tokio_php_client::config" text []
  [say .info "Configuration loaded:", say .info ("  Target: " ++ c.target)] ++
    (if c.forceRaw then [say .info "  Raw invocation forced (GRPC_RAW)"] else []) ++
    [match c.connectTimeout with
      | some t => say .info ("  Connect timeout: " ++ toString t.toMillis ++ "ms")
      | none => say .debug "  Connect timeout: transport default"]

end Settings

end ScriptClient
