import ScriptClient.Demonstration.Whole
import ScriptClient.Proofs.Channel
import ScriptClient.Proofs.Session.Logs

set_option autoImplicit false

/-! # The channel of a demonstration

A demonstration tells the log once that its channel is closed, after all else, if it was opened, and
never if it was not. All other events it can log say something else (`logsOnly_overChannel`), event
by event along the code, and `ensure` puts the one about the channel at the end of every run.
`channel_released` is the main result. -/

namespace ScriptClient

/-- Whether the message of an event is made of these words. -/
def Log.Event.Says (e : Log.Event) (words : String) : Prop :=
  (messageField, .text words) ∈ e.fields ∨ (messageField, .shown words) ∈ e.fields

/-- An event with other words for a message, and no other field with that name. -/
theorem Log.Event.not_says {level : Level} {target message words : String}
    {fields : List (String × Value)} (hwords : message ≠ words)
    (hfields : ∀ field ∈ fields, field.1 ≠ messageField) :
    ¬ (Event.say level target message fields).Says words := by
  rintro (htext | hshown)
  · rcases List.mem_cons.mp htext with heq | hmem
    · cases heq
    · exact hfields _ hmem rfl
  · rcases List.mem_cons.mp hshown with heq | hmem
    · cases heq
      exact hwords rfl
    · exact hfields _ hmem rfl

namespace Demonstration

open Call Rpc

/-- Whether an event tells something else than that a channel was closed. -/
def NotClosing (e : Log.Event) : Prop :=
  ¬ e.Says "Channel closed"

/-- A message that begins in another way is made of other words. -/
theorem append_ne {front words : String} (h : front.toList.isPrefixOf words.toList = false)
    (rest : String) : front ++ rest ≠ words := by
  rintro rfl
  rw [String.toList_append, List.isPrefixOf_iff_prefix.mpr (List.prefix_append _ _)] at h
  cases h

/-! ## Events of calls -/

theorem logsOnly_call (client : Client) (q : Api) : (client.call q).LogsOnly NotClosing := by
  have hevent : ∀ (method : Method) (id : String) (span : Trace.Context),
      NotClosing (Client.event method id span) := fun method id span =>
    Log.Event.not_says (by decide) (by simp [Log.messageField])
  cases q with
  | check message => exact fun _ _ => ⟨hevent _ _ _, fun _ => trivial⟩
  | execute message => exact fun _ _ => ⟨hevent _ _ _, fun _ => trivial⟩
  | executeStream message =>
    refine fun _ _ => ⟨hevent _ _ _, fun reply => ?_⟩
    cases reply <;> trivial

theorem logsOnly_report (call : String) (f : Failure) : (report call f).LogsOnly NotClosing := by
  refine ⟨?_, nofun, trivial⟩
  exact Log.Event.not_says (append_ne (by decide) _) (by simp [Log.messageField])

theorem logsOnly_showItems (items : List (Except Failure StreamChunk)) :
    (showItems items).LogsOnly NotClosing := by
  induction items with
  | nil => trivial
  | cons item rest ih =>
    cases item with
    | ok chunk => exact (Session.logsOnly_put _).bind fun _ => ih
    | error f => exact (logsOnly_report _ f).bind fun _ => ih.bind fun _ => trivial

/-- A stream that is given back tells why it stopped. -/
theorem notClosing_finish {σ : Type} (b : Bounded σ) : ∀ e ∈ b.finish.2.1, NotClosing e := by
  rw [Bounded.finish]
  simp only
  split
  · exact nofun
  all_goals
    rw [List.forall_mem_singleton]
    exact Log.Event.not_says (by decide) (by simp [Log.messageField])

theorem logsOnly_showStream (outcome : Except Failure (List (Except Failure StreamChunk))) :
    (showStream outcome).LogsOnly NotClosing := by
  cases outcome with
  | error f => exact logsOnly_report _ f
  | ok items =>
    exact (logsOnly_showItems _).bind fun _ =>
      (Session.logsOnly_tellAll (notClosing_finish _)).bind fun _ => trivial

theorem logsOnly_showHealth (outcome : Except Failure HealthCheckResponse) :
    (showHealth outcome).LogsOnly NotClosing := by
  cases outcome with
  | error f => exact logsOnly_report _ f
  | ok response => exact ⟨nofun, trivial⟩

theorem logsOnly_showPage (outcome : Except Failure ExecuteResponse) :
    (showPage outcome).LogsOnly NotClosing := by
  cases outcome with
  | error f => exact logsOnly_report _ f
  | ok response =>
    refine (Session.logsOnly_put _).bind fun _ => (Session.logsOnly_put _).bind fun _ =>
      (Session.logsOnly_put _).bind fun _ => ?_
    cases response.metadata with
    | none => trivial
    | some metadata => exact ⟨nofun, nofun, trivial⟩

theorem logsOnly_showForm (outcome : Except Failure ExecuteResponse) :
    (showForm outcome).LogsOnly NotClosing := by
  cases outcome with
  | error f => exact logsOnly_report _ f
  | ok response => exact ⟨nofun, nofun, trivial⟩

theorem logsOnly_demonstrate (index : Nat) (title : String) (q : Api)
    {showOutcome : q.Outcome → Dialogue Bool}
    (h : ∀ outcome, (showOutcome outcome).LogsOnly NotClosing) :
    (demonstrate index title q showOutcome).LogsOnly NotClosing :=
  (Session.logsOnly_put _).bind fun _ => (Session.logsOnly_request q).bind fun outcome =>
    (h outcome).bind fun _ => (Session.logsOnly_put _).bind fun _ => trivial

theorem logsOnly_fourCalls : fourCalls.LogsOnly NotClosing := by
  refine (Session.logsOnly_put _).bind fun _ => (Session.logsOnly_put _).bind fun _ => ?_
  refine (logsOnly_demonstrate 1 _ (.check {}) logsOnly_showHealth).bind fun _ => ?_
  refine (logsOnly_demonstrate 2 _ (.execute getRequest) logsOnly_showPage).bind fun _ => ?_
  refine (logsOnly_demonstrate 3 _ (.execute postRequest) logsOnly_showForm).bind fun _ => ?_
  refine (logsOnly_demonstrate 4 _ (.executeStream streamRequest) logsOnly_showStream).bind ?_
  exact fun _ => trivial

theorem logsOnly_unary (method : Method) (payload : List UInt8) :
    (Raw.unary method payload).LogsOnly NotClosing := by
  rw [Raw.unary]
  split
  · trivial
  · refine ⟨?_, fun _ => trivial⟩
    exact Log.Event.not_says (by decide) (by simp [Log.messageField])

theorem logsOnly_probe (bindings : Bool) : (probe bindings).LogsOnly NotClosing := by
  refine (Session.logsOnly_put _).bind fun _ => (Session.logsOnly_put _).bind fun _ =>
    (Session.logsOnly_put _).bind fun _ => (Session.logsOnly_put _).bind fun _ =>
    (logsOnly_unary .check []).bind fun reply => ?_
  cases reply with
  | ok response => exact ⟨nofun, trivial⟩
  | error f =>
    refine ⟨?_, nofun, trivial⟩
    exact Log.Event.not_says (append_ne (by decide) _) (by simp [Log.messageField])

theorem logsOnly_select (bindings : Bool) (env : Settings.Environment) (mode : Mode) :
    (Strategy.select bindings env mode).LogsOnly NotClosing := by
  have hclient : (Client.inherited env).LogsOnly NotClosing := by
    rw [Client.inherited, inheritedTrace]
    split
    · trivial
    · exact fun _ _ => trivial
  rw [Strategy.select]
  split
  · exact hclient.bind fun _ => trivial
  · trivial

/-- Nothing that is logged over a channel tells that one was closed. -/
theorem logsOnly_overChannel (bindings : Bool) (env : Settings.Environment)
    (c : Settings.Connection) : (overChannel bindings env c).LogsOnly NotClosing := by
  refine (logsOnly_select bindings env _).bind fun strategy =>
    (Session.logsOnly_tell ?_).bind fun _ => ?_
  · exact Log.Event.not_says (by decide) (by simp [Log.messageField])
  · cases strategy with
    | typed client => exact logsOnly_fourCalls.lower (logsOnly_call client)
    | raw => exact logsOnly_probe bindings

/-! ## The whole demonstration -/

section

variable {State : Type} (world : World Ask Ask.Answer State) (sink : Sink) (state : State)
  (bindings : Bool) (env : Settings.Environment) (c : Settings.Connection)

/-- Whether a channel is opened: the banner can be written, and the target is accepted. -/
def Opens : Prop :=
  (sink.accept (Text.Utf8.encode (Transcript.header c.target))).fits = true ∧
    ∃ uri, Endpoint.ofTarget c.target = .ok uri

/-- If a channel is opened, it is closed after all that is done over it. -/
theorem steps_of_opens (h : Opens sink c) :
    let r := (whole bindings env c).run world sink state
    let rest := (sink.accept (Text.Utf8.encode (Transcript.header c.target))).sink
    r.steps = [.wrote (Transcript.header c.target), .logged (Channel.openedEvent c.target)] ++
      ((overChannel bindings env c).run world rest state).steps ++
      [.logged (Channel.closedEvent c.target)] := by
  intro r rest
  obtain ⟨hfits, uri, huri⟩ := h
  let scope : Talk Tally := (overChannel bindings env c).ensure (Channel.closedEvent c.target)
  let ending (tally : Tally) : Talk (Except Endpoint.Refusal Tally) :=
    .flush [] (.done (.ok tally))
  have hwhole : whole bindings env c = .write (Transcript.header c.target) []
      (.log (Channel.openedEvent c.target) (scope.bind ending)) := by
    rw [whole, huri]
    rfl
  have hending : ∀ tally sink' state', ((ending tally).run world sink' state').steps = [] := by
    intro tally sink' state'
    show (if sink'.flushFails then _ else _ : Run _ _ _).steps = []
    split <;> rfl
  have hover : ((scope.bind ending).run world rest state).steps =
      ((overChannel bindings env c).run world rest state).steps ++
        [.logged (Channel.closedEvent c.target)] := by
    rw [Session.run_bind, Run.steps_andThen _ hending, Session.run_ensure]
  have hsteps : r.steps =
      .wrote (Transcript.header c.target) :: .logged (Channel.openedEvent c.target) ::
        ((scope.bind ending).run world rest state).steps := by
    show ((whole bindings env c).run world sink state).steps = _
    rw [hwhole, Session.run]
    simp only [hfits, if_true]
    rfl
  rw [hsteps, hover]
  rfl

/-- If no channel is opened, nothing is logged. -/
theorem not_mem_steps_of_not_opens (h : ¬ Opens sink c) (e : Log.Event) :
    .logged e ∉ ((whole bindings env c).run world sink state).steps := by
  intro he
  cases htarget : Endpoint.ofTarget c.target with
  | error refusal =>
    have hsilent : (whole bindings env c).LogsOnly fun _ => False := by
      rw [whole, htarget]
      exact (Session.logsOnly_put _).bind fun _ => trivial
    exact hsilent.of_mem_steps world sink state he
  | ok uri =>
    have hfull : ¬ (sink.accept (Text.Utf8.encode (Transcript.header c.target))).fits = true :=
      fun hfits => h ⟨hfits, uri, htarget⟩
    have hsteps : ((whole bindings env c).run world sink state).steps = [] := by
      show (if (sink.accept _).fits then _ else _ : Run _ _ _).steps = []
      rw [if_neg hfull]
      rfl
    rw [hsteps] at he
    exact absurd he List.not_mem_nil

end

/-- **One channel, released once.** While a scope is open, its channel has one handle more than the
body holds, also by a count of all handles that are made and dropped; from wherever it is the scope
comes to its last state, without a handle and with the result of the body, and closing a channel
that was just opened leaves no handle either. A demonstration that opens its channel logs once that
it is closed, at level `debug` and after all else, and one that does not open it never does,
whatever it is answered and wherever its transcript breaks off. -/
theorem channel_released :
    (∀ (α : Type) (body : Channel.Body α),
      (∀ s, (Channel.Scope.enter body).Reaches s →
        s.count = s.handles.live ∧
          (s.isClosed = false → s.handles.live = 1 + s.handles.lent) ∧
          (s.isClosed = true → s.handles.live = 0) ∧
          s.Reaches (Channel.Scope.final (body.result 1))) ∧
        Channel.within body .opened =
          (body.result 1, (Channel.Scope.final (body.result 1)).handles)) ∧
      (Channel.close .opened).live = 0 ∧
      ∀ (State : Type) (world : World Ask Ask.Answer State) (sink : Sink) (state : State)
        (bindings : Bool) (env : Settings.Environment) (c : Settings.Connection),
        let r := (whole bindings env c).run world sink state
        (Opens sink c → ∃ before,
          r.steps = before ++ [.logged (Channel.closedEvent c.target)] ∧
            (Channel.closedEvent c.target).level = .debug ∧
            (Channel.closedEvent c.target).Says "Channel closed" ∧
            ∀ e, .logged e ∈ before → ¬ e.Says "Channel closed") ∧
          (¬ Opens sink c → ∀ e, .logged e ∈ r.steps → ¬ e.Says "Channel closed") := by
  refine ⟨fun α body => Channel.scope_released body, rfl, ?_⟩
  intro State world sink state bindings env c r
  refine ⟨fun hopens => ?_, fun hnever e he => ?_⟩
  · refine ⟨_, steps_of_opens world sink state bindings env c hopens, rfl,
      .inr List.mem_cons_self, fun e he => ?_⟩
    rcases List.mem_append.mp he with hfirst | hover
    · have hopened : e = Channel.openedEvent c.target := by
        simpa using hfirst
      rw [hopened]
      exact Log.Event.not_says (by decide) (by simp [Log.messageField])
    · exact (logsOnly_overChannel bindings env c).of_mem_steps world _ state hover
  · exact absurd he (not_mem_steps_of_not_opens world sink state bindings env c hnever e)

end Demonstration

end ScriptClient
