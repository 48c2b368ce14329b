import ScriptClient.Demonstration.Whole
import ScriptClient.Proofs.Call.Raw
import ScriptClient.Proofs.Demonstration.Typed

set_option autoImplicit false

/-! # The requests of a demonstration

What a demonstration writes and sends once its target is accepted. A typed call sends one request to
the path of its method and writes nothing (`call_story`), so the four typed calls send four requests
and write the transcript of their outcomes. The probe sends one request. -/

namespace ScriptClient.Demonstration

open Call Rpc

/-! ## Requests -/

/-- How a question calls a method, if it does: whether the response is streamed, and the path. -/
def callOf? : Ask → Option (Bool × String)
  | .unary r => some (false, r.path)
  | .streaming r => some (true, r.path)
  | _ => none

/-- How a typed call calls its method. -/
def callOfApi : Api → Bool × String
  | .check _ => (false, Method.check.path)
  | .execute _ => (false, Method.execute.path)
  | .executeStream _ => (true, Method.executeStream.path)

section

variable {State : Type} (world : World Ask Ask.Answer State) (state : State)

/-- A typed call writes nothing and sends one request. -/
theorem call_story (c : Client) (q : Api) :
    Step.written ((c.call q).story world state) = "" ∧
      (Step.questions ((c.call q).story world state)).flatMap (fun a => (callOf? a).toList) =
        [callOfApi q] := by
  cases q with
  | check message => exact ⟨rfl, rfl⟩
  | execute message => exact ⟨rfl, rfl⟩
  | executeStream message =>
    simp only [Client.call, Session.bind_eq, Session.story_bind, Step.written_append,
      Step.questions_append, List.flatMap_append]
    -- the last step looks at the reply, and does nothing in either case
    split <;> exact ⟨rfl, rfl⟩

/-- A client writes and sends nothing when it is made. -/
theorem inherited_story (env : Settings.Environment) :
    Step.written ((Client.inherited env).story world state) = "" ∧
      (Step.questions ((Client.inherited env).story world state)).flatMap
        (fun a => (callOf? a).toList) = [] := by
  unfold Client.inherited inheritedTrace
  cases (env.get? traceVariable).bind Trace.Context.parse? with
  | none => exact ⟨rfl, rfl⟩
  | some trace => exact ⟨rfl, rfl⟩

/-- What the four typed calls come to over a channel. -/
def typedOutcomes (env : Settings.Environment) : Outcomes :=
  let (client, state') := (Client.inherited env).outcome world state
  Outcomes.ofWorld (Session.through client.call world) state'

/-- The text of a probe that comes to `reply`. -/
def probeText (bindings : Bool) (reply : Except Failure (List UInt8)) : String :=
  probeReason bindings ++ Transcript.blank ++
    Transcript.line "Attempting raw gRPC health check..." ++ Transcript.blank ++
    match reply with
    | .ok response =>
      Transcript.line ("Raw response: " ++ String.ofList (Text.Hex.ofBytes response))
    | .error f => Transcript.line ("Error: " ++ f.display)

/-- The request of a probe. -/
def probeRequest : Request := ⟨Method.check.path, ∅, []⟩

theorem unary_check :
    Raw.unary .check [] =
      .log (Raw.event .check []) (.request (Ask.unary probeRequest)) := by
  have hpath : Endpoint.pathAndQuery? Method.check.path.toList = some Method.check.path.toList := by
    decide
  rw [Raw.unary_of_path [] hpath, String.ofList_toList]
  rfl

theorem flushFree_probe (bindings : Bool) : (probe bindings).FlushFree := by
  rw [probe, unary_check]
  intro reply
  cases reply <;> trivial

/-- A probe sends one request and shows what it comes to. -/
theorem probe_story (bindings : Bool) :
    Step.written ((probe bindings).story world state) =
        probeText bindings (world (.unary probeRequest) state).1 ∧
      Step.questions ((probe bindings).story world state) = [.unary probeRequest] := by
  rw [probe, unary_check]
  simp only [Session.bind_eq, Session.story_bind, Session.story_put, Session.outcome_put,
    Step.written_append, Step.questions_append, Step.written_wrote, Step.written_nil,
    Step.questions_wrote, Step.questions_nil, String.append_empty, List.nil_append,
    Session.outcome, Session.story, Session.request, Step.written_logged, Step.written_asked,
    Step.questions_logged, Step.questions_asked, String.empty_append, probeText,
    String.append_assoc]
  cases (world (.unary probeRequest) state).1 with
  | ok response =>
    refine ⟨?_, rfl⟩
    simp only [Session.story_bind, Session.story_put, Session.pure_eq_done, Session.story_done,
      List.append_nil, Step.written_wrote, Step.written_nil, String.append_empty]
  | error f =>
    refine ⟨?_, rfl⟩
    simp only [Session.story_bind, Session.story_tell, Session.story_put, Session.pure_eq_done,
      Session.story_done, Session.outcome_tell, List.append_nil, List.singleton_append,
      Step.written_logged, Step.written_wrote, Step.written_nil, String.append_empty]

/-! ## The calls of a mode -/

/-- The four typed calls write their transcript and send four requests. -/
theorem overChannel_typed (env : Settings.Environment) (c : Settings.Connection)
    (hraw : c.forceRaw = false) :
    Step.written ((overChannel true env c).story world state) =
        (typedOutcomes world state env).transcript ∧
      (Step.questions ((overChannel true env c).story world state)).flatMap
          (fun a => (callOf? a).toList) = Outcomes.questions.map callOfApi := by
  obtain ⟨hquiet, hnone⟩ := inherited_story world state env
  have hselect : Strategy.select true env (.select true c.forceRaw) =
      Client.inherited env >>= fun client => .done (.typed client) := by
    rw [hraw]
    rfl
  have hcalls := fun client state' =>
    fourCalls_eq (Session.through (Client.call client) world) state'
  rw [overChannel, hselect]
  simp only [Session.bind_eq, Session.story_bind, Session.outcome_bind, Session.outcome_done,
    Session.story_done, Session.outcome_tell, Session.story_tell, Step.written_append,
    Step.questions_append, List.flatMap_append, Step.written_logged, Step.written_nil,
    Step.questions_logged, Step.questions_nil, List.append_nil, List.nil_append,
    String.empty_append, hquiet, hnone, Strategy.calls]
  -- the calls are answered through sessions that write nothing and send one request each
  refine ⟨?_, ?_⟩
  · rw [Session.written_story_lower _ _ fun q state' => (call_story world state' _ q).1,
      (hcalls _ _).2.1]
    rfl
  · rw [Session.questions_story_lower _ _ _ (fun q => [callOfApi q]) fun q state' =>
        (call_story world state' _ q).2, (hcalls _ _).2.2]
    rfl

/-- Raw calls are the probe. -/
theorem overChannel_raw (bindings : Bool) (env : Settings.Environment) (c : Settings.Connection)
    (hraw : (bindings && !c.forceRaw) = false) :
    Step.written ((overChannel bindings env c).story world state) =
        probeText bindings (world (.unary probeRequest) state).1 ∧
      Step.questions ((overChannel bindings env c).story world state) = [.unary probeRequest] := by
  have hselect : Strategy.select bindings env (.select bindings c.forceRaw) = .done .raw := by
    rw [Mode.select, hraw]
    cases bindings <;> rfl
  rw [overChannel, hselect]
  exact probe_story world state bindings

/-! ## The whole demonstration -/

/-- A target that is refused gets the banner and nothing else. -/
theorem whole_refused (bindings : Bool) (env : Settings.Environment) (c : Settings.Connection)
    {refusal : Endpoint.Refusal} (h : Endpoint.ofTarget c.target = .error refusal) :
    ((whole bindings env c).outcome world state).1 = .error refusal ∧
      Step.written ((whole bindings env c).story world state) = Transcript.header c.target ∧
      Step.questions ((whole bindings env c).story world state) = [] := by
  rw [whole, h]
  refine ⟨rfl, ?_, rfl⟩
  exact String.append_empty

/-- A target that is accepted gets the banner, and then the calls of the mode. -/
theorem whole_accepted (bindings : Bool) (env : Settings.Environment) (c : Settings.Connection)
    {uri : Endpoint.Uri} (h : Endpoint.ofTarget c.target = .ok uri) :
    ((whole bindings env c).outcome world state).1 =
        .ok ((overChannel bindings env c).outcome world state).1 ∧
      Step.written ((whole bindings env c).story world state) =
        Transcript.header c.target ++
          Step.written ((overChannel bindings env c).story world state) ∧
      Step.questions ((whole bindings env c).story world state) =
        Step.questions ((overChannel bindings env c).story world state) := by
  have hflush : ∀ state', (Session.flush [] (.done ()) : Talk Unit).story world state' = [] :=
    fun _ => rfl
  rw [whole, h]
  simp only [Session.bind_eq, Session.story_bind, Session.outcome_bind, Session.outcome_put,
    Session.story_put, Session.outcome_tell, Session.story_tell, Session.outcome_ensure,
    Session.story_ensure, Session.pure_eq_done, Session.outcome_done, Session.story_done, hflush,
    Step.written_append, Step.questions_append, Step.written_wrote, Step.written_logged,
    Step.written_nil, Step.questions_wrote, Step.questions_logged, Step.questions_nil,
    String.append_empty, String.empty_append, List.append_nil, List.nil_append, true_and]

end

end ScriptClient.Demonstration
