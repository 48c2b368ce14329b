import ScriptClient.Message.Health
import ScriptClient.Message.Script
import ScriptClient.Rpc.Ask
import ScriptClient.Rpc.Method
import ScriptClient.Session.Basic
import ScriptClient.Settings.Environment
import ScriptClient.Trace.Context

set_option autoImplicit false

/-! # Typed calls

The calls of the script service with messages. Each call is sent with an identifier of its own and
with a span of the client's trace; a request whose options name no trace gets the one of its call.
A response that is no message of the expected type fails the call.

As for raw calls, the channel is taken to be ready for every request, and the failure of a call over
one that is never ready again is left out. -/

namespace ScriptClient.Call

open Rpc

/-- A call of the script service. -/
inductive Api where
  /-- Asks for the server's health. -/
  | check (request : HealthCheckRequest)
  /-- Runs a script for a complete response. -/
  | execute (request : ExecuteRequest)
  /-- Runs a script for a streamed response. -/
  | executeStream (request : ExecuteRequest)

/-- What a call comes to. -/
def Api.Outcome : Api → Type
  | .check _ => Except Failure HealthCheckResponse
  | .execute _ => Except Failure ExecuteResponse
  | .executeStream _ => Except Failure (List (Except Failure StreamChunk))

/-- The key of the identifier of a call. -/
def requestIdKey : String := "x-request-id"

/-- The variable that hands in a trace. -/
def traceVariable : String := "TRACEPARENT"

/-- A client of the script service: the trace that all its calls belong to. -/
structure Client where
  trace : Trace.Context
  deriving DecidableEq

/-- A session that asks what a client asks. -/
abbrev Talk := Session Ask Ask.Answer

/-- The failure of a call whose response is no message of its type. -/
def undecodable : Failure :=
  ⟨.internal, "failed to decode Protobuf message"⟩

/-- The message in the bytes of a response. -/
def decodeResponse {M : Type} [Wire.Message M] :
    Except Failure (List UInt8) → Except Failure M
  | .error f => .error f
  | .ok bytes =>
    match Wire.decode bytes with
    | some m => .ok m
    | none => .error undecodable

/-- A tick to make an identifier from. -/
def tick : Talk Trace.Tick := .request Ask.tick

/-- Random bits. -/
def randomBits : Talk RandomBits := .request Ask.random

/-- A new recorded trace. -/
def freshTrace : Talk Trace.Context := do
  let forTrace ← tick
  let forSpan ← tick
  return .fresh forTrace forSpan

/-- The trace that the environment hands in, or a new one. -/
def inheritedTrace (env : Settings.Environment) : Talk Trace.Context :=
  match (env.get? traceVariable).bind Trace.Context.parse? with
  | some trace => .done trace
  | none => freshTrace

namespace Client

/-- A client of the trace that the environment hands in. -/
def inherited (env : Settings.Environment) : Talk Client := do
  return ⟨← inheritedTrace env⟩

/-- What is logged before a call. -/
def event (method : Method) (requestId : String) (span : Trace.Context) : Log.Event :=
  .say .debug "tokio_php_client::grpc::typed" "Calling PhpService"
    [("method", .text method.method), ("request_id", .shown requestId),
      ("traceparent", .shown span.render), ("sampled", .bool span.isSampled)]

/-- The span of one call. -/
def childSpan (c : Client) : Talk Trace.Context := do
  return c.trace.child (← tick)

/-- The request for a method, made in a span. -/
def prepare {M : Type} [Wire.Message M] (method : Method) (span : Trace.Context) (message : M) :
    Talk Request := do
  let requestId := (← randomBits).uuid
  .tell (event method requestId span)
  return {
    path := method.path
    metadata := span.inject ((∅ : Metadata).insertText requestIdKey requestId)
    payload := Wire.encode message }

/-- The request with the trace of its call in its options, if it has options without one. -/
def fillTrace (span : Trace.Context) (request : ExecuteRequest) : ExecuteRequest :=
  match request.options with
  | some options =>
    if options.traceParent = "" then
      { request with options := some { options with traceParent := span.render } }
    else request
  | none => request

/-- Makes a call over a channel that is ready. -/
def call (c : Client) : (q : Api) → Talk q.Outcome
  | .check message => do
    let span ← c.childSpan
    let request ← prepare .check span message
    let reply ← Session.request (Ask.unary request)
    return decodeResponse reply
  | .execute message => do
    let span ← c.childSpan
    let request ← prepare .execute span (fillTrace span message)
    let reply ← Session.request (Ask.unary request)
    return decodeResponse reply
  | .executeStream message => do
    let span ← c.childSpan
    let request ← prepare .executeStream span (fillTrace span message)
    let reply ← Session.request (Ask.streaming request)
    match reply with
    | .error f => return .error f
    | .ok items => return .ok (items.map decodeResponse)

end Client

end ScriptClient.Call
