import ScriptClient.Call.Typed
import ScriptClient.Proofs.Rpc.Metadata
import ScriptClient.Proofs.Rpc.RequestId
import ScriptClient.Proofs.Session.Quiet
import ScriptClient.Proofs.Trace.Canonical

set_option autoImplicit false

/-! # Correlation of calls

What ties a call to the run it is made in: its request has an identifier of its own and the context
of one span of the client's trace, and a message whose options name no trace names that very span
(`Correlated`). Each call sends one such request (`call_sends`), so a whole sequence of calls sends
one for each of its calls, all in the trace that the client was made with (`calls_correlated`). -/

namespace ScriptClient

/-- The request with a trace for its options, if it has options that name none. -/
def ExecuteRequest.tracedBy (header : String) (request : ExecuteRequest) : ExecuteRequest :=
  { request with
    options := request.options.map fun options =>
      if options.traceParent = "" then { options with traceParent := header } else options }

namespace Call

open Rpc

/-- The method that a call goes to. -/
def Api.method : Api → Method
  | .check _ => .check
  | .execute _ => .execute
  | .executeStream _ => .executeStream

/-- The bytes of the message of a call, with `header` for a trace that is left open. -/
def Api.payload (header : String) : Api → List UInt8
  | .check message => Wire.encode message
  | .execute message => Wire.encode (message.tracedBy header)
  | .executeStream message => Wire.encode (message.tracedBy header)

/-- The request belongs to a call in a trace: it has one identifier, which is a UUID of version 4,
and one context, which is that of a span of the trace and also stands in the message where the call
left it open. -/
structure Correlated (trace : Trace.Context) (q : Api) (r : Request) : Prop where
  path : r.path = q.method.path
  requestId : ∃ id, isUuid4 id = true ∧ r.metadata.valuesOf requestIdKey = [Text.Utf8.encode id]
  context : ∃ header span,
    r.metadata.valuesOf Trace.Context.metadataKey = [Text.Utf8.encode header] ∧
      Trace.Context.parse? header = some span ∧ span.traceId = trace.traceId ∧
        span.flags = trace.flags ∧ r.payload = q.payload header

theorem fillTrace_eq (span : Trace.Context) (request : ExecuteRequest) :
    Client.fillTrace span request = request.tracedBy span.render := by
  obtain ⟨_, _, _, _, _, _, _, _, options⟩ := request
  cases options with
  | none => rfl
  | some options =>
    by_cases h : options.traceParent = ""
    · simp [Client.fillTrace, ExecuteRequest.tracedBy, h]
    · simp [Client.fillTrace, ExecuteRequest.tracedBy, h]

/-! ## The request of one call -/

section

variable {State : Type} (world : World Ask Ask.Answer State) (state : State)

namespace Client

/-- The request of a call, made with a tick for its span and random bits for its identifier. -/
def sent (c : Client) (q : Api) (t : Trace.Tick) (bits : RandomBits) : Request :=
  let span := c.trace.child t
  { path := q.method.path
    metadata := span.inject ((∅ : Metadata).insertText requestIdKey bits.uuid)
    payload := q.payload span.render }

theorem correlated_sent {c : Client} (h : c.trace.Canonical) (q : Api) (t : Trace.Tick)
    (bits : RandomBits) : Correlated c.trace q (c.sent q t bits) := by
  have hspan : (c.trace.child t).Canonical := h.child t
  have hvisible : ∀ {d : Char}, Text.Hex.isLower d = true ∨ d = '-' →
      0x20 ≤ d.toNat ∧ d.toNat < 0x7f := by
    intro d hd
    rcases hd with hd | rfl
    · exact (Text.Hex.isLower_facts hd).2.2.2.2
    · decide
  have hmetadata : (c.sent q t bits).metadata =
      ((∅ : Metadata).insert requestIdKey (Text.Utf8.encode bits.uuid)).insert
        Trace.Context.metadataKey (Text.Utf8.encode (c.trace.child t).render) := by
    rw [sent, Trace.Context.inject,
      Metadata.insertText_of_visible _ _ fun d hd => hvisible (RandomBits.mem_uuid hd),
      Metadata.insertText_of_visible _ _ fun d hd => hvisible (hspan.mem_render hd)]
  constructor
  · rfl
  · refine ⟨bits.uuid, RandomBits.isUuid4_uuid bits, ?_⟩
    rw [hmetadata, Metadata.valuesOf_insert, if_neg (by decide), Metadata.valuesOf_insert,
      if_pos rfl]
  · refine ⟨(c.trace.child t).render, c.trace.child t, ?_, hspan.parse?_render,
      Trace.Context.traceId_child _ _, Trace.Context.flags_child _ _, rfl⟩
    rw [hmetadata, Metadata.valuesOf_insert, if_pos rfl]

theorem quiet_call (c : Client) (q : Api) : (c.call q).Quiet := by
  cases q with
  | check message => exact fun _ _ _ => trivial
  | execute message => exact fun _ _ _ => trivial
  | executeStream message =>
    intro _ _ reply
    cases reply <;> trivial

/-- A call sends one request. -/
theorem call_sends (c : Client) (q : Api) :
    ∃ t bits, (Step.questions ((c.call q).story world state)).filterMap Ask.request? =
      [c.sent q t bits] := by
  refine ⟨(world .tick state).1, (world .random (world .tick state).2).1, ?_⟩
  cases q with
  | check message => rfl
  | execute message =>
    simp only [sent, Api.payload, ← fillTrace_eq]
    rfl
  | executeStream message =>
    simp only [sent, Api.payload, ← fillTrace_eq]
    simp only [call, Session.bind_eq, Session.story_bind, Step.questions_append,
      List.filterMap_append]
    -- the last step looks at the reply, and sends nothing in either case
    split <;> rfl

end Client

end

/-! ## Where a trace comes from -/

/-- Where a client takes its trace from. -/
inductive Origin where
  /-- The environment, if it hands one in. -/
  | environment (env : Settings.Environment)
  /-- Nowhere: it is new. -/
  | new

namespace Origin

/-- A client with a trace of this origin. -/
def client : Origin → Talk Client
  | .environment env => Client.inherited env
  | .new => do return ⟨← freshTrace⟩

/-- The trace that is handed in, if one is. -/
def handedIn? : Origin → Option Trace.Context
  | .environment env => (env.get? traceVariable).bind Trace.Context.parse?
  | .new => none

section

variable {State : Type} (world : World Ask Ask.Answer State) (state : State) (origin : Origin)

theorem client_eq :
    origin.client = match origin.handedIn? with
      | some trace => .done ⟨trace⟩
      | none => freshTrace.bind fun trace => .done ⟨trace⟩ := by
  cases origin with
  | new => rfl
  | environment env =>
    rw [client, handedIn?, Client.inherited, inheritedTrace]
    cases (env.get? traceVariable).bind Trace.Context.parse? <;> rfl

theorem quiet_client : origin.client.Quiet := by
  rw [client_eq]
  cases origin.handedIn? with
  | none => exact fun _ _ => trivial
  | some trace => trivial

/-- Making a client sends nothing. -/
theorem client_sends_nothing :
    (Step.questions (origin.client.story world state)).filterMap Ask.request? = [] := by
  rw [client_eq]
  cases origin.handedIn? <;> rfl

theorem canonical_client : (origin.client.outcome world state).1.trace.Canonical := by
  rw [client_eq]
  cases hhanded : origin.handedIn? with
  | none => exact Trace.Context.canonical_fresh _ _
  | some trace =>
    cases origin with
    | new => cases hhanded
    | environment env =>
      obtain ⟨value, -, hvalue⟩ := Option.bind_eq_some_iff.mp hhanded
      exact Trace.Context.canonical_of_parse? hvalue

theorem trace_client {trace : Trace.Context} (h : origin.handedIn? = some trace) :
    (origin.client.outcome world state).1.trace = trace := by
  rw [client_eq, h]
  rfl

end

end Origin

/-! ## Sequences of calls -/

/-- **Correlation of calls.** A client is made, and calls are made through it: which ones, and with
which messages, may depend on the replies to the calls before. Whatever it is answered, each call
sends one request, which belongs to it in the trace that the client was made with, and nothing else
is sent. A trace that is handed in is the trace of the client. -/
theorem calls_correlated {State α : Type} (origin : Origin) (s : Session Api Api.Outcome α)
    (world : World Ask Ask.Answer State) (sink : Sink) (state : State) :
    let r := (origin.client >>= fun c => s.lower c.call).run world sink state
    let made := origin.client.outcome world state
    let calls := s.run (Session.through made.1.call world) sink made.2
    r.result = calls.result ∧
      List.Forall₂ (Correlated made.1.trace) calls.questions
        (r.questions.filterMap Ask.request?) ∧
      ∀ trace, origin.handedIn? = some trace → made.1.trace = trace := by
  intro r made calls
  have hcanonical : made.1.trace.Canonical := origin.canonical_client world state
  have hrun : r = { (s.lower made.1.call).run world sink made.2 with
      steps := origin.client.story world state ++
        ((s.lower made.1.call).run world sink made.2).steps } := by
    show (origin.client.bind fun c => s.lower c.call).run world sink state = _
    rw [Session.run_bind, origin.quiet_client.run_eq]
    rfl
  have hquestions : r.questions.filterMap Ask.request? =
      ((s.lower made.1.call).run world sink made.2).questions.filterMap Ask.request? := by
    rw [hrun, Run.questions_eq, Run.questions_eq, Step.questions_append, List.filterMap_append,
      origin.client_sends_nothing, List.nil_append]
  refine ⟨?_, ?_, fun trace h => origin.trace_client world state h⟩
  · rw [hrun]
    exact (Session.run_lower world made.1.quiet_call s sink made.2).1
  · rw [hquestions]
    refine Session.forall₂_questions_lower world _ _ made.1.quiet_call ?_ s sink made.2
    intro q state'
    obtain ⟨t, bits, hsent⟩ := made.1.call_sends world state' q
    exact ⟨made.1.sent q t bits, Client.correlated_sent hcanonical q t bits, hsent⟩

end Call

end ScriptClient
