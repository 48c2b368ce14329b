import ScriptClient.Wire.Message

set_option autoImplicit false

/-! # Messages about scripts

What is sent to run a script and what comes back: the request with its options, the complete
response with its metadata, and the chunks of a streamed response. Each type lists its fields with
their tags; the wire form follows from the list. -/

namespace ScriptClient

open Wire

/-- How a script is to be run. -/
structure RequestOptions where
  timeoutMs : UInt32 := 0
  enableProfiling : Bool := false
  traceParent : String := ""
  deriving DecidableEq

instance : Message RequestOptions where
  empty := {}
  fields := [
    .scalar .uint32 1 RequestOptions.timeoutMs fun m v => { m with timeoutMs := v },
    .scalar .bool 2 RequestOptions.enableProfiling fun m v => { m with enableProfiling := v },
    .text 3 RequestOptions.traceParent fun m v => { m with traceParent := v }]

/-- One run of a script: which script, and all that it can see of an HTTP request. -/
structure ExecuteRequest where
  scriptPath : String := ""
  method : String := ""
  queryParams : SortedMap String := ∅
  formData : SortedMap String := ∅
  serverVars : SortedMap String := ∅
  cookies : SortedMap String := ∅
  contentType : String := ""
  body : List UInt8 := []
  options : Option RequestOptions := none
  deriving DecidableEq

instance : Message ExecuteRequest where
  empty := {}
  fields := [
    .text 1 ExecuteRequest.scriptPath fun m v => { m with scriptPath := v },
    .text 2 ExecuteRequest.method fun m v => { m with method := v },
    .map 3 ExecuteRequest.queryParams fun m v => { m with queryParams := v },
    .map 4 ExecuteRequest.formData fun m v => { m with formData := v },
    .map 5 ExecuteRequest.serverVars fun m v => { m with serverVars := v },
    .map 6 ExecuteRequest.cookies fun m v => { m with cookies := v },
    .text 7 ExecuteRequest.contentType fun m v => { m with contentType := v },
    .bytes 8 ExecuteRequest.body fun m v => { m with body := v },
    .message 9 ExecuteRequest.options fun m v => { m with options := v }]

/-- Where and how long a script ran. -/
structure ExecutionMetadata where
  requestId : String := ""
  workerId : UInt32 := 0
  executionTimeUs : Int64 := 0
  queueWaitUs : Int64 := 0
  deriving DecidableEq

instance : Message ExecutionMetadata where
  empty := {}
  fields := [
    .text 1 ExecutionMetadata.requestId fun m v => { m with requestId := v },
    .scalar .uint32 2 ExecutionMetadata.workerId fun m v => { m with workerId := v },
    .scalar .int64 3 ExecutionMetadata.executionTimeUs fun m v => { m with executionTimeUs := v },
    .scalar .int64 4 ExecutionMetadata.queueWaitUs fun m v => { m with queueWaitUs := v }]

/-- The complete response of a script. -/
structure ExecuteResponse where
  statusCode : Int32 := 0
  headers : SortedMap String := ∅
  body : List UInt8 := []
  metadata : Option ExecutionMetadata := none
  deriving DecidableEq

instance : Message ExecuteResponse where
  empty := {}
  fields := [
    .scalar .int32 1 ExecuteResponse.statusCode fun m v => { m with statusCode := v },
    .map 2 ExecuteResponse.headers fun m v => { m with headers := v },
    .bytes 3 ExecuteResponse.body fun m v => { m with body := v },
    .message 4 ExecuteResponse.metadata fun m v => { m with metadata := v }]

/-- A piece of a streamed response. -/
structure StreamChunk where
  data : List UInt8 := []
  isFinal : Bool := false
  sequence : UInt64 := 0
  deriving DecidableEq

instance : Message StreamChunk where
  empty := {}
  fields := [
    .bytes 1 StreamChunk.data fun m v => { m with data := v },
    .scalar .bool 2 StreamChunk.isFinal fun m v => { m with isFinal := v },
    .scalar .uint64 3 StreamChunk.sequence fun m v => { m with sequence := v }]

end ScriptClient
