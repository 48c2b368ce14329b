import ScriptClient.Log.Event

set_option autoImplicit false

/-! # Channels

One channel is opened per run. Its owner lends a handle to the body of a scope and lets go of its
own when the body is done. A body may copy and drop the handles it holds, and none outlives the
scope: the channel is released exactly when no handle is left. -/

namespace ScriptClient.Channel

/-- The handles to one channel. -/
structure Handles where
  /-- Whether the owner still holds its own. -/
  owned : Bool
  /-- How many the body of the scope holds. -/
  lent : Nat
  deriving DecidableEq, Repr

namespace Handles

/-- The handles of a channel that was just opened. -/
def opened : Handles := ⟨true, 0⟩

/-- How many handles keep the channel alive. -/
def live (h : Handles) : Nat :=
  (if h.owned then 1 else 0) + h.lent

/-- Copies a handle that the body holds; without one there is nothing to copy. -/
def copy (h : Handles) : Handles :=
  if h.lent = 0 then h else { h with lent := h.lent + 1 }

/-- Drops a handle that the body holds, if there is one. -/
def drop (h : Handles) : Handles :=
  { h with lent := h.lent - 1 }

end Handles

/-- What the body of a scope does with the handles it holds. -/
inductive Body (α : Type) where
  /-- The end of the body. -/
  | done (result : α)
  /-- Copies a handle. -/
  | copy (next : Body α)
  /-- Drops a handle. -/
  | drop (next : Body α)
  /-- Looks at the number of live handles. -/
  | count (next : Nat → Body α)

/-- The result of a body, and the handles when it ends. -/
def Body.run {α : Type} : Body α → Handles → α × Handles
  | .done a, h => (a, h)
  | .copy next, h => next.run h.copy
  | .drop next, h => next.run h.drop
  | .count next, h => (next h.live).run h

/-- The event of a channel to `target` that was opened. -/
def openedEvent (target : String) : Log.Event :=
  .say .debug "tokio_php_client::grpc::channel" "Channel opened" [("addr", .shown target)]

/-- The event of a channel to `target` that was closed. -/
def closedEvent (target : String) : Log.Event :=
  .say .debug "tokio_php_client::grpc::channel" "Channel closed" [("addr", .shown target)]

/-- Lets the owner go of its handle. -/
def close (h : Handles) : Handles :=
  { h with owned := false }

/-- Lends a handle to the body, takes back those the body holds at its end, and closes. -/
def within {α : Type} (body : Body α) (h : Handles) : α × Handles :=
  let (result, h') := body.run { h with lent := h.lent + 1 }
  (result, close { h' with lent := 0 })

end ScriptClient.Channel
