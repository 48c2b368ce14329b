import ScriptClient.Bounded
import ScriptClient.Call.Typed
import ScriptClient.Demonstration.Tally
import ScriptClient.Message.Build
import ScriptClient.Transcript

set_option autoImplicit false

/-! # The four typed calls

A probe of the server's health, a script with a `GET` request, one with a `POST` request, and a
streamed response, each under a title of its own. A failed call is logged, shown under its title,
and counted; the next call is made all the same. What stands under a title depends on the outcome
of its call alone. -/

namespace ScriptClient.Demonstration

open Call Rpc

/-- A session that makes calls of the script service. -/
abbrev Dialogue := Session Api Api.Outcome

/-- A request with parameters that ask for a page of a list. -/
def getRequest : ExecuteRequest :=
  (ExecuteRequest.get "index.php").addAll
    [.query "page" "1", .query "limit" "10", .timeoutMs 5000, .profiling false]

/-- A form with an authorization header and a session cookie. -/
def postRequest : ExecuteRequest :=
  (ExecuteRequest.post "api/users.php").addAll
    [.form "name" "John Doe", .form "email" "john@example.com",
      .serverVar "HTTP_AUTHORIZATION" "Bearer token123", .cookie "session_id" "abc123"]

/-- A request for a streamed response. -/
def streamRequest : ExecuteRequest :=
  .get "stream.php"

/-- How many characters of the body of a `POST` response are shown. -/
def previewLength : Nat := 200

/-- What is logged about a failed call. -/
def failureEvent (call : String) (f : Failure) : Log.Event :=
  .say .warn "tokio_php_client::demo::typed" ("Call failed: " ++ f.message)
    [("call", .text call), ("code", .shown f.code.name)]

/-- Logs and shows a failed call. -/
def report (call : String) (f : Failure) : Dialogue Bool := do
  .tell (failureEvent call f)
  .put (Transcript.failure f)
  return false

/-- Headers as they are shown: quoted, in the order of their names. -/
def showHeaders (headers : SortedMap String) : String :=
  let entry (e : String × String) : String :=
    Text.Quoted.encode e.1 ++ ": " ++ Text.Quoted.encode e.2
  "\x7b" ++ ", ".intercalate (headers.entries.map entry) ++ "\x7d"

/-! ## What stands under the titles -/

/-- Shows the outcome of the probe. -/
def showHealth : Except Failure HealthCheckResponse → Dialogue Bool
  | .error f => report "Check" f
  | .ok response => do
    .put (Transcript.field "Status" (statusLabel response.status))
    return true

/-- Shows a complete response without its body. -/
def showPage : Except Failure ExecuteResponse → Dialogue Bool
  | .error f => report "Execute" f
  | .ok response => do
    .put (Transcript.field "Status Code" (toString response.statusCode.toInt))
    .put (Transcript.field "Headers" (showHeaders response.headers))
    .put (Transcript.field "Body length" (toString response.body.length ++ " bytes"))
    match response.metadata with
    | none => return true
    | some metadata =>
      .put (Transcript.field "Request ID" metadata.requestId)
      .put (Transcript.field "Execution time" (toString metadata.executionTimeUs.toInt ++ "µs"))
      return true

/-- Shows the start of the body of a complete response. -/
def showForm : Except Failure ExecuteResponse → Dialogue Bool
  | .error f => report "Execute" f
  | .ok response => do
    .put (Transcript.field "Status Code" (toString response.statusCode.toInt))
    .put (Transcript.field "Body"
      (String.ofList (Text.Utf8.preview previewLength response.body) ++ "..."))
    return true

/-- Shows the items of a stream in order; the answer is whether none of them was an error. -/
def showItems : List (Except Failure StreamChunk) → Dialogue Bool
  | [] => return true
  | .ok chunk :: rest => do
    .put (Transcript.field ("Chunk " ++ toString chunk.sequence.toNat)
      (toString chunk.data.length ++ " bytes, final=" ++ toString chunk.isFinal))
    showItems rest
  | .error f :: rest => do
    let _ ← report "ExecuteStream" f
    let _ ← showItems rest
    return false

/-- Shows what a bounded stream delivers, and gives the stream back. -/
def showStream : Except Failure (List (Except Failure StreamChunk)) → Dialogue Bool
  | .error f => report "ExecuteStream" f
  | .ok items => do
    let (delivered, stream) := Bounded.collectItems StreamChunk.isFinal Bounded.defaultLimit items
    let ok ← showItems delivered
    .tellAll stream.finish.2.1
    return ok

/-! ## The calls in order -/

/-- Makes a call under a title, and shows what it comes to. -/
def demonstrate (index : Nat) (title : String) (q : Api) (showOutcome : q.Outcome → Dialogue Bool) :
    Dialogue Bool := do
  .put (Transcript.title index title)
  let outcome ← Session.request q
  let ok ← showOutcome outcome
  .put Transcript.blank
  return ok

/-- Makes the four calls in order. -/
def fourCalls : Dialogue Tally := do
  .put (Transcript.line "Using generated proto bindings")
  .put Transcript.blank
  let health ← demonstrate 1 "Health Check" (.check {}) showHealth
  let page ← demonstrate 2 "Execute Script" (.execute getRequest) showPage
  let form ← demonstrate 3 "Execute POST Request" (.execute postRequest) showForm
  let stream ← demonstrate 4 "Streaming Response" (.executeStream streamRequest) showStream
  return [health, page, form, stream].foldl Tally.record {}

end ScriptClient.Demonstration
