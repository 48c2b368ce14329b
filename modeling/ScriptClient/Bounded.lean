import ScriptClient.Log.Event

set_option autoImplicit false

/-! # Bounded streams

Chunks of a stream in the order of delivery, up to the first of: a final chunk, the limit, an
error, or the end of the stream. A stream that has stopped is not polled again. -/

namespace ScriptClient

/-- What a poll of a stream gives. -/
inductive Poll (τ ε : Type) where
  /-- Nothing yet. -/
  | pending
  /-- A chunk. -/
  | chunk (c : τ)
  /-- An error. -/
  | failed (e : ε)
  /-- The end of the stream. -/
  | ended
  deriving DecidableEq

/-- Why a bounded stream stopped. -/
inductive StreamEnd where
  /-- The last chunk was marked as final. -/
  | final
  /-- The limit was reached. -/
  | limit
  /-- The stream ended without a final chunk. -/
  | exhausted
  /-- The stream gave an error. -/
  | failed
  deriving DecidableEq, Repr

/-- The name of a reason to stop. -/
def StreamEnd.name : StreamEnd → String
  | final => "Final"
  | limit => "Limit"
  | exhausted => "Exhausted"
  | failed => "Failed"

/-- What is left to say of a stream when it is given back. -/
structure StreamSummary where
  /-- The number of chunks that were delivered. -/
  chunks : Nat
  /-- Why it stopped, if it had. -/
  stop : Option StreamEnd
  deriving DecidableEq, Repr

/-- A stream that stops by itself. -/
structure Bounded (σ : Type) where
  /-- The stream behind it, until it is given back. -/
  source : Option σ
  /-- The number of chunks at which it stops. -/
  limit : Nat
  /-- The number of chunks delivered so far. -/
  seen : Nat := 0
  /-- Why it stopped, once it has. -/
  stop : Option StreamEnd := none

namespace Bounded

/-- The limit of streams in a run. -/
def defaultLimit : Nat := 5

variable {σ τ ε : Type}

/-- A stream that stops after `limit` chunks at the latest, and after one if the limit is 0. -/
def ofSource (source : σ) (limit : Nat) : Bounded σ :=
  { source := some source, limit := max limit 1 }

/-- The state after the stream behind gave `outcome`. A final chunk counts as such even when it
reaches the limit. -/
def note (isFinal : τ → Bool) (b : Bounded σ) : Poll τ ε → Bounded σ
  | .pending => b
  | .chunk c =>
    let seen := b.seen + 1
    let stop :=
      if isFinal c then some .final else if b.limit ≤ seen then some .limit else none
    { b with seen := seen, stop := stop }
  | .failed _ => { b with stop := some .failed }
  | .ended => { b with stop := some .exhausted }

/-- Polls the stream behind once, unless the stream has stopped or was given back. -/
def poll (next : σ → Poll τ ε × σ) (isFinal : τ → Bool) (b : Bounded σ) : Poll τ ε × Bounded σ :=
  match b.stop, b.source with
  | none, some source =>
    let (outcome, source') := next source
    (outcome, note isFinal { b with source := some source' } outcome)
  | _, _ => (.ended, b)

/-- Gives the stream behind back. Stopping before the stream did cancels its call. -/
def finish (b : Bounded σ) : StreamSummary × List Log.Event × Bounded σ :=
  let target := "tokio_php_client::grpc::stream"
  let chunks : String × Log.Value := ("chunks", .number b.seen)
  let events :=
    match b.source, b.stop with
    | none, _ => []
    | some _, none => [.say .info target "Stopping stream early, cancelling call" [chunks]]
    | some _, some .limit => [.say .info target "Stopping stream early, cancelling call" [chunks]]
    | some _, some stop =>
      [.say .debug target "Stream finished" [chunks, ("end", .shown stop.name)]]
  (⟨b.seen, b.stop⟩, events, { b with source := none })

/-! ## Streams that are lists -/

/-- Polls a list of chunks and errors, which ends after its last item. -/
def nextItem : List (Except ε τ) → Poll τ ε × List (Except ε τ)
  | [] => (.ended, [])
  | .ok c :: rest => (.chunk c, rest)
  | .error e :: rest => (.failed e, rest)

/-- Polls until the stream ends, at most `count` times: the items, and the state after them. -/
def collect (next : σ → Poll τ ε × σ) (isFinal : τ → Bool) :
    (count : Nat) → Bounded σ → List (Except ε τ) × Bounded σ
  | 0, b => ([], b)
  | count + 1, b =>
    match b.poll next isFinal with
    | (.chunk c, b') =>
      let (items, last) := collect next isFinal count b'
      (.ok c :: items, last)
    | (.failed e, b') =>
      let (items, last) := collect next isFinal count b'
      (.error e :: items, last)
    | (.pending, b') => collect next isFinal count b'
    | (.ended, b') => ([], b')

/-- All that a bounded stream delivers of a list of chunks and errors, and the state after it. One
poll more than the limit is enough. -/
def collectItems (isFinal : τ → Bool) (limit : Nat) (items : List (Except ε τ)) :
    List (Except ε τ) × Bounded (List (Except ε τ)) :=
  let b := ofSource items limit
  collect nextItem isFinal (b.limit + 1) b

end Bounded

end ScriptClient
