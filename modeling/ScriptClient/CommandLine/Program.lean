import ScriptClient.CommandLine.Arguments
import ScriptClient.Demonstration.Whole
import ScriptClient.Log.Display
import ScriptClient.Session.Run
import ScriptClient.Settings.Basic

set_option autoImplicit false

/-! # The program

What the program does for its arguments and environment: it stops at once, or runs the
demonstration with the settings they ask for. `run` gives all that can be seen from outside: the
exit status, both outputs, and what was asked of the world. Failed calls show in the transcript and
not in the exit status. -/

namespace ScriptClient.CommandLine

open Call Rpc

/-- The name of the program, which is also what its own events come from. -/
def programName : String := "tokio_php_client"

/-- The version of the program. -/
def packageVersion : String := "0.1.0"

/-- What is known about the build. -/
def buildVersion : String := ""

/-- The version with the build. -/
def version : String := packageVersion ++ " (" ++ buildVersion ++ ")"

/-- What is shown on a request for help. -/
def helpText : String :=
  "gRPC demonstration client for a tokio_php server\n\n" ++
  "Usage: tokio_php_client [OPTIONS]\n\n" ++
  "Options:\n" ++
  "      --host <HOST>  Server address in host:port form (overrides GRPC_HOST)\n" ++
  "      --raw          Use the raw invocation path even when bindings are compiled in\n" ++
  "  -h, --help         Print help\n" ++
  "  -V, --version      Print version\n"

/-- The settings with those arguments that override some. -/
def Arguments.apply (a : Arguments) (settings : Settings) : Settings :=
  let connection :=
    match a.host with
    | some host => settings.connection.withTarget host
    | none => settings.connection
  { settings with connection := if a.raw then connection.withForceRaw true else connection }

/-- What the program comes to before anything is called. -/
inductive Start where
  /-- It stops. -/
  | stop (exit : Nat) (stdout : String) (stderr : List String)
  /-- It runs, after some lines about the settings. -/
  | go (settings : Settings) (stderr : List String)

namespace Program

/-- The exit status of a run that broke off. -/
def brokenOff : Nat := 101

/-- What is said about a filter that is torn. -/
def tornFilterText : String := "the log filter is cut inside a character"

/-- What the program comes to before anything is called. A log filter that is torn breaks the run
off; one that cannot be read does not. -/
def start (arguments : List String) (env : Settings.Environment) : Start :=
  match Command.parse arguments with
  | .help => .stop 0 helpText []
  | .version => .stop 0 (programName ++ " " ++ packageVersion ++ "\n") []
  | .misuse reason => .stop 2 "" [reason.message]
  | .run a =>
    match Settings.load env with
    | .error problem => .stop 1 "" ["Error: " ++ problem.debug]
    | .ok settings =>
      let warning := (Settings.Logging.levelWarning? env).toList
      match Log.Filter.parse settings.logging.filter with
      | .error .torn => .stop brokenOff "" (warning ++ [tornFilterText])
      | _ => .go (a.apply settings) warning

/-- What is logged when all calls were made. -/
def closingEvent (tally : Demonstration.Tally) : Log.Event :=
  let succeeded : String × Log.Value := ("succeeded", .number tally.succeeded)
  if tally.failed = 0 then .say .info programName "All calls succeeded" [succeeded]
  else .say .warn programName "Some calls failed" [succeeded, ("failed", .number tally.failed)]

/-- All that the program does with its settings. -/
def session (bindings : Bool) (env : Settings.Environment) (settings : Settings) :
    Talk (Except Endpoint.Refusal Demonstration.Tally) := do
  .tell (.say .info programName ("tokio_php_client " ++ version) [])
  .tellAll settings.connection.summary
  match ← Demonstration.whole bindings env settings.connection with
  | .error refusal => return .error refusal
  | .ok tally =>
    .tell (closingEvent tally)
    return .ok tally

/-- The complaint that the program ends with, if it does not succeed. -/
def complaint? : Except Fault (Except Endpoint.Refusal Demonstration.Tally) → Option String
  | .ok (.ok _) => none
  | .ok (.error refusal) => some ("Error: " ++ refusal.debug)
  | .error fault => some ("Error: " ++ fault.message)

/-- What can be seen of a run of the program. -/
structure Outcome (State : Type) where
  exit : Nat
  stdout : List UInt8
  /-- The lines, without their ends. -/
  stderr : List String
  /-- What was asked of the world, in order. -/
  questions : List Ask
  state : State

/-- Runs the program. The time is the one that its log lines show. -/
def run {State : Type} (bindings : Bool) (arguments : List String) (env : Settings.Environment)
    (world : World Ask Ask.Answer State) (sink : Sink) (time : String) (state : State) :
    Outcome State :=
  match start arguments env with
  | .stop exit stdout stderr => ⟨exit, Text.Utf8.encode stdout, stderr, [], state⟩
  | .go settings stderr =>
    let r := (session bindings env settings).run world sink state
    let lines := r.events.filterMap (·.display? settings.logging time)
    let complaint := complaint? r.result
    { exit := if complaint.isNone then 0 else 1
      stdout := r.output
      stderr := stderr ++ lines ++ complaint.toList
      questions := r.questions
      state := r.state }

end Program

end ScriptClient.CommandLine
