import ScriptClient.CommandLine.Program
import ScriptClient.Timestamp
import Std.Time.DateTime.Timestamp

set_option autoImplicit false

/-! # The command line program

Runs a session against the real clock, real random bits and the standard outputs. There is no
transport here, so every request is refused as one to a server that cannot be reached. -/

namespace ScriptClient.CommandLine

open Rpc

/-- The failure of every request without a transport. -/
def unreachable : Failure := ⟨.unavailable, "tcp connect error"⟩

/-- The time since the start of 1970 in nanoseconds. -/
def clockNanos : IO Nat :=
  return (← Std.Time.Timestamp.now).toNanosecondsSinceUnixEpoch.toInt.toNat

/-- The text of the present moment. -/
def presentTime : IO String := do
  let nanos ← clockNanos
  return (Timestamp.mk (nanos / 1000000000) (nanos / 1000000 % 1000)).render

/-- Shows an event on the standard error output. -/
def showEvent (settings : Settings.Logging) (event : Log.Event) : IO Unit := do
  if let some line := event.display? settings (← presentTime) then IO.eprintln line

/-- Random bits of the system. -/
def systemBits : IO RandomBits := do
  let word : List UInt8 → UInt64 := List.foldl (fun n b => n * 256 + b.toUInt64) 0
  let bytes := (← IO.getRandomBytes 16).toList
  return ⟨word (bytes.take 8), word (bytes.drop 8)⟩

/-- Answers a question. The reference counts the identifiers made so far. -/
def answer (made : IO.Ref UInt64) : (q : Ask) → IO (Ask.Answer q)
  | .tick => do
    let count ← made.modifyGet fun n => (n, n + 1)
    return Trace.Tick.mk (UInt64.ofNat (← clockNanos)) count
  | .random => systemBits
  | .unary _ => return .error unreachable
  | .streaming _ => return .error unreachable

/-- Runs a session. -/
def perform {α : Type} (settings : Settings.Logging) (made : IO.Ref UInt64) :
    Call.Talk α → IO (Except Fault α)
  | .done a => return .ok a
  | .write text closing next => do
    let written ← ((← IO.getStdout).putStr text).toBaseIO
    match written with
    | .ok () => perform settings made next
    | .error _ => closing.forM (showEvent settings); return .error .full
  | .flush closing next => do
    let flushed ← (← IO.getStdout).flush.toBaseIO
    match flushed with
    | .ok () => perform settings made next
    | .error _ => closing.forM (showEvent settings); return .error .flush
  | .log event next => do
    showEvent settings event
    perform settings made next
  | .ask q next => do
    let a ← answer made q
    perform settings made (next a)

/-- The variables that the program reads. -/
def readVariables : List String :=
  ["GRPC_HOST", "GRPC_RAW", "GRPC_CONNECT_TIMEOUT", "LOG_FORMAT", "LOG_LEVEL", "RUST_LOG",
    "SERVICE_NAME", Call.traceVariable]

/-- The environment of the process, as far as the program reads it. -/
def processEnvironment : IO Settings.Environment :=
  readVariables.foldlM (fun env name => do
    match ← IO.getEnv name with
    | some value => return env.set name (Text.Utf8.encode value)
    | none => return env) .empty

end ScriptClient.CommandLine

open ScriptClient ScriptClient.CommandLine

/-- The program. -/
def main (arguments : List String) : IO UInt32 := do
  let env ← processEnvironment
  match Program.start arguments env with
  | .stop exit stdout stderr =>
    IO.print stdout
    stderr.forM IO.eprintln
    return UInt32.ofNat exit
  | .go settings stderr =>
    stderr.forM IO.eprintln
    let result ← perform settings.logging (← IO.mkRef 0) (Program.session true env settings)
    match Program.complaint? result with
    | none => return 0
    | some complaint =>
      IO.eprintln complaint
      return 1
