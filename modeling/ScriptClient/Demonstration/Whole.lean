import ScriptClient.Channel
import ScriptClient.Demonstration.Calls
import ScriptClient.Demonstration.Probe
import ScriptClient.Endpoint.Target
import ScriptClient.Mode
import ScriptClient.Settings.Connection

set_option autoImplicit false

/-! # The whole demonstration

The banner, then, over a channel to the target if the target is accepted, the calls of one mode.
The channel is closed after the last call, also when the transcript cannot be written on. -/

namespace ScriptClient.Demonstration

open Call Rpc

/-- How the calls of a run are made. -/
inductive Strategy where
  /-- The four typed calls of a client. -/
  | typed (client : Client)
  /-- The raw probe. -/
  | raw

namespace Strategy

/-- The strategy for a mode. -/
def select (bindings : Bool) (env : Settings.Environment) (mode : Mode) : Talk Strategy :=
  match mode.resolve bindings with
  | .typed => do return .typed (← Client.inherited env)
  | .raw => return .raw

/-- The mode of a strategy. -/
def mode : Strategy → Mode
  | .typed _ => .typed
  | .raw => .raw

/-- Makes the calls. -/
def calls (bindings : Bool) : Strategy → Talk Tally
  | .typed client => fourCalls.lower client.call
  | .raw => probe bindings

end Strategy

/-- What is logged when it is known how calls are made. -/
def modeEvent (mode : Mode) (target : String) : Log.Event :=
  .say .info "tokio_php_client::demo" "Invocation mode selected"
    [("mode", .shown mode.name), ("target", .shown target)]

/-- Makes the calls of a connection's mode. -/
def overChannel (bindings : Bool) (env : Settings.Environment) (c : Settings.Connection) :
    Talk Tally := do
  let strategy ← Strategy.select bindings env (.select bindings c.forceRaw)
  .tell (modeEvent strategy.mode c.target)
  strategy.calls bindings

/-- The demonstration for a connection: the tally of its calls, or the refusal of its target. -/
def whole (bindings : Bool) (env : Settings.Environment) (c : Settings.Connection) :
    Talk (Except Endpoint.Refusal Tally) := do
  .put (Transcript.header c.target)
  match Endpoint.ofTarget c.target with
  | .error refusal => return .error refusal
  | .ok _ =>
    .tell (Channel.openedEvent c.target)
    let tally ← (overChannel bindings env c).ensure (Channel.closedEvent c.target)
    .flush [] (.done ())
    return .ok tally

end ScriptClient.Demonstration
