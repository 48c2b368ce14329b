import ScriptClient.Call.Raw
import ScriptClient.Demonstration.Tally
import ScriptClient.Text.Hex
import ScriptClient.Transcript

set_option autoImplicit false

/-! # The raw probe

One raw call that asks for the server's health with an empty message. The response is shown as hex
digits and not looked at. -/

namespace ScriptClient.Demonstration

open Rpc

/-- What is logged about the failed probe. -/
def probeFailureEvent (method : Method) (f : Failure) : Log.Event :=
  .say .warn "tokio_php_client::demo::raw" ("Raw call failed: " ++ f.message)
    [("method", .shown method.path), ("code", .shown f.code.name)]

/-- Why calls are made raw: they are forced to be, or there are no messages built in. -/
def probeReason (bindings : Bool) : String :=
  if bindings then Transcript.line "Raw invocation forced (GRPC_RAW or --raw)."
  else
    Transcript.line "Generated bindings are not compiled in. Rebuild with:" ++
      Transcript.line "  cargo build --features bindings"

/-- Makes the probe and shows what it comes to. -/
def probe (bindings : Bool) : Session Ask Ask.Answer Tally := do
  .put (probeReason bindings)
  .put Transcript.blank
  .put (Transcript.line "Attempting raw gRPC health check...")
  .put Transcript.blank
  match ← Call.Raw.unary .check [] with
  | .ok response =>
    .put (Transcript.line ("Raw response: " ++ String.ofList (Text.Hex.ofBytes response)))
    return { succeeded := 1 }
  | .error f =>
    .tell (probeFailureEvent .check f)
    .put (Transcript.line ("Error: " ++ f.display))
    return { failed := 1 }

end ScriptClient.Demonstration
