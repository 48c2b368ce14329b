import ScriptClient.Rpc.Metadata
import ScriptClient.Text.Blank
import ScriptClient.Text.Pieces
import ScriptClient.Trace.Id

set_option autoImplicit false

/-! # Trace contexts

The context that lets a server correlate its logs with the run of a client: a trace identifier, the
identifier of the calling span, and flags. Its text is a `traceparent` value of version 00. -/

namespace ScriptClient.Trace

/-- The trace of one run, with the span a call is made in. -/
structure Context where
  traceId : String
  spanId : String
  flags : UInt8
  deriving DecidableEq, Repr

namespace Context

/-- The flag of a trace that is recorded. -/
def sampledFlag : UInt8 := 1

/-- The key of the text in the metadata of a call. -/
def metadataKey : String := "traceparent"

/-- Starts a new recorded trace: one tick for each of its two identifiers. -/
def fresh (forTrace forSpan : Tick) : Context :=
  ⟨freshTraceId forTrace, freshSpanId forSpan, sampledFlag⟩

/-- The context of one call within the trace. -/
def child (c : Context) (t : Tick) : Context :=
  { c with spanId := freshSpanId t }

/-- Whether the trace is recorded. -/
def isSampled (c : Context) : Bool :=
  c.flags &&& sampledFlag != 0

/-- An identifier is so many digits, not all zero. -/
def isId (length : Nat) (cs : List Char) : Bool :=
  cs.length = length && cs.all Text.Hex.isDigit && cs.any (· ≠ '0')

/-- Reads flags: two digits, or a plus sign and a digit. -/
def readFlags? : List Char → Option UInt8
  | [high, low] =>
    match Text.Hex.value? low with
    | none => none
    | some l =>
      if high = '+' then some (UInt8.ofNat l)
      else (Text.Hex.value? high).map fun h => UInt8.ofNat (16 * h + l)
  | _ => none

/-- Reads a `traceparent` value of version 00. Identifiers are kept in lowercase. -/
def parse? (value : String) : Option Context :=
  match Text.splitAt '-' (Text.trim value.toList) with
  | [version, traceId, spanId, flags] =>
    if version = ['0', '0'] ∧ isId 32 traceId ∧ isId 16 spanId then
      (readFlags? flags).map fun n =>
        ⟨String.ofList (traceId.map Char.toLower), String.ofList (spanId.map Char.toLower), n⟩
    else none
  | _ => none

/-- The `traceparent` value. -/
def render (c : Context) : String :=
  "00-" ++ c.traceId ++ "-" ++ c.spanId ++ "-" ++ String.ofList (Text.Hex.fixed 2 c.flags.toNat)

/-- Puts the value into the metadata of a call. A value that metadata cannot hold is left out. -/
def inject (c : Context) (metadata : Rpc.Metadata) : Rpc.Metadata :=
  metadata.insertText metadataKey c.render

end Context

end ScriptClient.Trace
