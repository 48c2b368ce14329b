set_option autoImplicit false

/-! # Remote methods

A method of a service, and the path it is called by. -/

namespace ScriptClient.Rpc

/-- A method of a service. -/
structure Method where
  service : String
  method : String
  deriving DecidableEq, Repr

/-- The service that runs scripts. -/
def scriptService : String := "tokio_php.v1.PhpService"

namespace Method

/-- The path that the method is called by. -/
def path (m : Method) : String :=
  "/" ++ m.service ++ "/" ++ m.method

/-- The probe of the server's health. -/
def check : Method := ⟨scriptService, "Check"⟩

/-- The run of a script with a complete response. -/
def execute : Method := ⟨scriptService, "Execute"⟩

/-- The run of a script with a streamed response. -/
def executeStream : Method := ⟨scriptService, "ExecuteStream"⟩

end Method

end ScriptClient.Rpc
