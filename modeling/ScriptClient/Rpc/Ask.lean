import ScriptClient.Rpc.Failure
import ScriptClient.Rpc.Metadata
import ScriptClient.Trace.Id

set_option autoImplicit false

/-! # What a client asks of the world

A client needs three things from outside: ticks to make identifiers from, random bits, and answers
to its requests. A unary request is answered by one message; a streaming one by messages until the
first error, or the end. -/

namespace ScriptClient.Rpc

/-- A request as it is sent. -/
structure Request where
  path : String
  metadata : Metadata
  payload : List UInt8
  deriving DecidableEq

/-- 128 random bits. -/
structure RandomBits where
  high : UInt64
  low : UInt64
  deriving DecidableEq, Repr

/-- What a client asks of the world. -/
inductive Ask where
  /-- A tick to make an identifier from. -/
  | tick
  /-- Bits for a random identifier. -/
  | random
  /-- An answer of one message. -/
  | unary (request : Request)
  /-- An answer of many messages. -/
  | streaming (request : Request)

namespace Ask

/-- What the world answers. -/
def Answer : Ask → Type
  | .tick => Trace.Tick
  | .random => RandomBits
  | .unary _ => Except Failure (List UInt8)
  | .streaming _ => Except Failure (List (Except Failure (List UInt8)))

/-- The request that is sent, if one is. -/
def request? : Ask → Option Request
  | .unary r => some r
  | .streaming r => some r
  | _ => none

end Ask

/-- The lower-case text of a random identifier (UUID version 4) with the given bits: version and
variant take six of them. -/
def RandomBits.uuid (r : RandomBits) : String :=
  let high := Trace.wordDigits ((r.high &&& 0xffffffffffff0fff) ||| 0x4000)
  let low := Trace.wordDigits ((r.low &&& 0x3fffffffffffffff) ||| 0x8000000000000000)
  String.ofList (high.take 8 ++ '-' :: (high.drop 8).take 4 ++ '-' :: high.drop 12 ++
    '-' :: low.take 4 ++ '-' :: low.drop 4)

end ScriptClient.Rpc
