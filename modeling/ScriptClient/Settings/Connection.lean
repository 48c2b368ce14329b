import ScriptClient.Settings.Environment
import ScriptClient.Settings.Problem
import ScriptClient.Text.Blank
import ScriptClient.Timeout

set_option autoImplicit false

/-! # Settings of the connection

Which server to call, how, and how long to wait for the connection. Loading reads three variables;
the first one that cannot be used decides the problem that is reported. -/

namespace ScriptClient.Settings

/-- The target when none is set. -/
def defaultTarget : String := "localhost:50051"

/-- Which server to call, and how. -/
structure Connection where
  target : String := defaultTarget
  /-- Whether calls are made raw although typed ones could be made. -/
  forceRaw : Bool := false
  /-- How long to wait for the connection; the transport decides if there is no timeout. -/
  connectTimeout : Option Timeout := none
  deriving DecidableEq, Repr

namespace Connection

/-- The connection to another target. -/
def withTarget (c : Connection) (target : String) : Connection :=
  { c with target := target }

/-- The connection with raw calls forced or not. -/
def withForceRaw (c : Connection) (forceRaw : Bool) : Connection :=
  { c with forceRaw := forceRaw }

/-- The timeout in a variable. A value that is none is reported as it stands there. -/
def loadTimeout (env : Environment) (key default : String) : Except Problem (Option Timeout) :=
  let value := env.getD key default
  match Timeout.read value with
  | .ok timeout => .ok timeout
  | .error fault => .error (.parse key value fault.message)

/-- The target in the environment, without the blanks around it. -/
def loadTarget (env : Environment) : Except Problem String :=
  match Text.trim (env.getD "GRPC_HOST" defaultTarget).toList with
  | [] => .error (.invalid "GRPC_HOST" "must not be empty")
  | cs => .ok (String.ofList cs)

/-- The connection that the environment asks for. -/
def load (env : Environment) : Except Problem Connection :=
  match loadTarget env with
  | .error p => .error p
  | .ok target =>
    match loadTimeout env "GRPC_CONNECT_TIMEOUT" "off" with
    | .error p => .error p
    | .ok timeout => .ok ⟨target, env.getFlag "GRPC_RAW" false, timeout⟩

end Connection

end ScriptClient.Settings
