import ScriptClient.Endpoint.PathAndQuery
import ScriptClient.Rpc.Ask
import ScriptClient.Rpc.Method
import ScriptClient.Session.Basic

set_option autoImplicit false

/-! # Raw calls

A call of a method by its path, with opaque bytes for the message and the response. A path that a
request cannot have fails the call before anything is sent. What is put into an empty frame is taken
out of it again (`drain_fill`).

The channel is taken to be ready for every request. If what drives it has stopped, it is never ready
again, and a call fails before anything is logged or sent, with the code `Unknown` and the detail
`Service was not ready: ` with a cause behind it. That failure is left out here. -/

namespace ScriptClient.Call.Raw

open Rpc

/-! ## Frames -/

/-- Puts a message behind what a frame holds. -/
def fill (frame message : List UInt8) : List UInt8 :=
  frame ++ message

/-- The message in a frame, which is all that the frame holds, and what is left in the frame. -/
def drain (frame : List UInt8) : List UInt8 × List UInt8 :=
  frame.splitAt frame.length

theorem drain_eq (frame : List UInt8) : drain frame = (frame, []) := by
  rw [drain, List.splitAt_eq, List.take_length, List.drop_length]

theorem drain_fill (message : List UInt8) : drain (fill [] message) = (message, []) :=
  drain_eq message

/-! ## Calls -/

/-- The failure of a call whose path no request can have. -/
def invalidPath : Failure :=
  ⟨.internal, "invalid method path: invalid uri character"⟩

/-- What is logged before a call. -/
def event (method : Method) (payload : List UInt8) : Log.Event :=
  .say .debug "tokio_php_client::grpc::raw" "Raw unary call"
    [("method", .shown method.path), ("bytes", .number payload.length)]

/-- The response in a reply. A failed call keeps the code and the detail that the peer gave. -/
def received : Except Failure (List UInt8) → Except Failure (List UInt8)
  | .error f => .error f
  | .ok frame => .ok (drain frame).1

/-- Calls a method with a payload over a channel that is ready. The path is sent as a path with a
query, so without what follows a number sign. -/
def unary (method : Method) (payload : List UInt8) :
    Session Ask Ask.Answer (Except Failure (List UInt8)) :=
  match Endpoint.pathAndQuery? method.path.toList with
  | none => .done (.error invalidPath)
  | some path => do
    .tell (event method payload)
    let reply ← Session.request (Ask.unary ⟨String.ofList path, ∅, fill [] payload⟩)
    return received reply

end ScriptClient.Call.Raw
