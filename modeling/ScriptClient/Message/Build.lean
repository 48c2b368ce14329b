import ScriptClient.Message.Script

set_option autoImplicit false

/-! # Building requests

A request for a script is built from a path and a method by adding parameters and options one at a
time. Nothing is checked: the server decides what a request means. -/

namespace ScriptClient.ExecuteRequest

/-- A request for the script at a path, with an HTTP method. -/
def new (path method : String) : ExecuteRequest :=
  { scriptPath := path, method := method }

/-- A request with the method `GET`. -/
def get (path : String) : ExecuteRequest := new path "GET"

/-- A request with the method `POST`. -/
def post (path : String) : ExecuteRequest := new path "POST"

/-- One addition to a request. -/
inductive Addition where
  /-- A parameter of the query. -/
  | query (key value : String)
  /-- A field of the form. -/
  | form (key value : String)
  /-- A variable of the server; headers are named `HTTP_*`. -/
  | serverVar (key value : String)
  /-- A cookie. -/
  | cookie (key value : String)
  /-- How long the script may run. -/
  | timeoutMs (n : UInt32)
  /-- Whether the run is profiled. -/
  | profiling (enabled : Bool)
  deriving DecidableEq

/-- The request with one addition. The last one of a key or an option counts; the first option
makes the options present. -/
def add (r : ExecuteRequest) : Addition → ExecuteRequest
  | .query k v => { r with queryParams := r.queryParams.insert k v }
  | .form k v => { r with formData := r.formData.insert k v }
  | .serverVar k v => { r with serverVars := r.serverVars.insert k v }
  | .cookie k v => { r with cookies := r.cookies.insert k v }
  | .timeoutMs n => { r with options := some { r.options.getD {} with timeoutMs := n } }
  | .profiling b => { r with options := some { r.options.getD {} with enableProfiling := b } }

/-- The request with several additions in order. -/
def addAll (r : ExecuteRequest) (additions : List Addition) : ExecuteRequest :=
  additions.foldl add r

end ScriptClient.ExecuteRequest
