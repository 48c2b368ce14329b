import ScriptClient.Proofs.CommandLine.Program
import ScriptClient.Proofs.Demonstration.Failures

set_option autoImplicit false

/-! # Three accounts of failure

The tally of a run, the warnings in its log and the error lines in its transcript tell of the same
failed calls (`Accounts`), and so does the last event of the program (`failures_accounted`). -/

namespace ScriptClient

/-! ## Accounts of failed calls -/

namespace Step

variable {Ask : Type}

/-- The events among steps, in order. -/
def events (steps : List (Step Ask)) : List Log.Event :=
  steps.filterMap fun
    | .logged e => some e
    | _ => none

/-- The texts among steps, in order. -/
def texts (steps : List (Step Ask)) : List String :=
  steps.filterMap fun
    | .wrote text => some text
    | _ => none

end Step

section

variable {Ask State α : Type} (r : Run Ask State α)

theorem Run.events_eq : r.events = Step.events r.steps := rfl

theorem Run.texts_eq : r.texts = Step.texts r.steps := rfl

end

namespace Note

/-- The warning of a note, if it is one. -/
def warning? : Note → Option Log.Event
  | warning e => some e
  | error _ => none

/-- The error line of a note, if it is one. -/
def error? : Note → Option String
  | warning _ => none
  | error line => some line

end Note

namespace Step

variable {Ask : Type}

theorem events_append_logged (steps : List (Step Ask)) (e : Log.Event) :
    events (steps ++ [.logged e]) = events steps ++ [e] := by
  rw [events, List.filterMap_append]
  rfl

theorem texts_append_logged (steps : List (Step Ask)) (e : Log.Event) :
    texts (steps ++ [.logged e]) = texts steps := by
  rw [texts, List.filterMap_append]
  exact List.append_nil _

theorem filter_events (steps : List (Step Ask)) :
    (events steps).filter (·.level = .warn) = (notes steps).filterMap Note.warning? := by
  rw [events, List.filter_filterMap, notes, List.filterMap_filterMap]
  refine congrArg (List.filterMap · steps) (funext fun step => ?_)
  cases step with
  | wrote text => by_cases h : Transcript.isErrorLine text <;> simp [note?, h, Note.warning?]
  | logged e => by_cases h : e.level = .warn <;> simp [note?, h, Note.warning?, Option.filter]
  | asked q => rfl

theorem filter_texts (steps : List (Step Ask)) :
    (texts steps).filter Transcript.isErrorLine = (notes steps).filterMap Note.error? := by
  rw [texts, List.filter_filterMap, notes, List.filterMap_filterMap]
  refine congrArg (List.filterMap · steps) (funext fun step => ?_)
  cases step with
  | wrote text =>
    by_cases h : Transcript.isErrorLine text <;> simp [note?, h, Note.error?, Option.filter]
  | logged e => by_cases h : e.level = .warn <;> simp [note?, h, Note.error?]
  | asked q => rfl

end Step

namespace Demonstration

open Call Rpc

theorem warnings_notesOf (failures : List FailedCall) :
    (notesOf failures).filterMap Note.warning? = failures.map FailedCall.warning := by
  induction failures with
  | nil => rfl
  | cons c rest ih => exact congrArg (c.warning :: ·) ih

theorem errors_notesOf (failures : List FailedCall) :
    (notesOf failures).filterMap Note.error? = failures.map FailedCall.line := by
  induction failures with
  | nil => rfl
  | cons c rest ih => exact congrArg (c.line :: ·) ih

/-- The tally, the log and the transcript tell of the same failed calls: as many are counted as
failed, a log that shows all warnings has one for each of them in order, and so has the transcript
an error line. -/
structure Accounts (failures : List FailedCall) (tally : Tally) (events : List Log.Event)
    (texts : List String) : Prop where
  counted : tally.failed = failures.length
  warned : ∀ shows : Log.Event → Bool, (∀ e ∈ events, e.level = .warn → shows e = true) →
    (events.filter shows).filter (·.level = .warn) = failures.map FailedCall.warning
  shown : texts.filter Transcript.isErrorLine = failures.map FailedCall.line

theorem accounts_of_notes {Ask : Type} {failures : List FailedCall} {tally : Tally}
    {steps : List (Step Ask)} (hcount : tally.failed = failures.length)
    (hnotes : Step.notes steps = notesOf failures) :
    Accounts failures tally (Step.events steps) (Step.texts steps) where
  counted := hcount
  warned := by
    intro shows hshows
    rw [List.filter_filter, ← warnings_notesOf, ← hnotes, ← Step.filter_events]
    refine List.filter_congr fun e he => ?_
    by_cases hwarn : e.level = .warn
    · simp [hwarn, hshows e he hwarn]
    · simp [hwarn]
  shown := by rw [← errors_notesOf, ← hnotes, Step.filter_texts]

/-! ## Accounts of the program -/

section

variable {State : Type} (world : World Ask Ask.Answer State) (state : State)

/-- The calls of a connection's mode that failed, in the order of the calls. -/
def failuresOver (bindings : Bool) (env : Settings.Environment) (c : Settings.Connection) :
    List FailedCall :=
  match Mode.select bindings c.forceRaw with
  | .typed => (typedOutcomes world state env).failures
  | .raw => failedProbe (world (.unary probeRequest) state).1

theorem leaves_inherited (env : Settings.Environment) : (Client.inherited env).Leaves [] := by
  rw [Client.inherited, inheritedTrace]
  split
  · exact Session.leaves_done _
  · exact fun _ _ _ => rfl

/-- What is counted and what is left behind over a channel are the failed calls of its mode. -/
theorem accounts_overChannel (bindings : Bool) (env : Settings.Environment)
    (c : Settings.Connection) :
    ((overChannel bindings env c).outcome world state).1.failed =
        (failuresOver world state bindings env c).length ∧
      Step.notes ((overChannel bindings env c).story world state) =
        notesOf (failuresOver world state bindings env c) := by
  have hmode : ∀ mode, (modeEvent mode c.target).level ≠ .warn := fun _ => nofun
  rw [overChannel, failuresOver]
  by_cases h : (bindings && !c.forceRaw) = true
  · obtain ⟨rfl, hraw⟩ := Bool.and_eq_true_iff.mp h
    have hselect : Mode.select true c.forceRaw = .typed := if_pos h
    have hstrategy : Strategy.select true env .typed =
        Client.inherited env >>= fun client => .done (.typed client) := rfl
    rw [hselect, hstrategy]
    simp only [Session.bind_eq, Session.story_bind, Session.outcome_bind, Session.outcome_done,
      Session.story_done, Session.outcome_tell, Session.story_tell, Step.notes_append,
      Step.notes_logged (hmode _), Step.notes_nil, List.append_nil, List.nil_append,
      leaves_inherited env State, Strategy.calls, Session.outcome_lower, typedOutcomes]
    refine ⟨failed_fourCalls _ _, ?_⟩
    rw [Session.notes_story_lower (leaves_call _), notes_fourCalls]
  · have hselect : Mode.select bindings c.forceRaw = .raw := if_neg h
    have hstrategy : Strategy.select bindings env .raw = .done .raw := by
      cases bindings <;> rfl
    rw [hselect, hstrategy]
    refine ⟨failed_probe bindings world state, ?_⟩
    show Step.notes (.logged (modeEvent .raw c.target) :: (probe bindings).story world state) = _
    rw [Step.notes_logged (hmode _), notes_probe]

/-- The demonstration over a channel is all of a demonstration that tells of failures. -/
theorem notes_whole (bindings : Bool) (env : Settings.Environment) (c : Settings.Connection)
    {uri : Endpoint.Uri} (h : Endpoint.ofTarget c.target = .ok uri) :
    Step.notes ((whole bindings env c).story world state) =
      Step.notes ((overChannel bindings env c).story world state) := by
  have hfront : (Transcript.line "=== tokio_php Rust gRPC Client ===").toList <+:
      (Transcript.header c.target).toList := by
    rw [Transcript.header, String.append_assoc]
    exact Transcript.prefix_append _ _
  have hheader := Transcript.isErrorLine_eq_false (by decide) hfront
  have hopened : (Channel.openedEvent c.target).level ≠ .warn := nofun
  have hclosed : (Channel.closedEvent c.target).level ≠ .warn := nofun
  have hflush : ∀ state', (Session.flush [] (.done ()) : Talk Unit).story world state' = [] :=
    fun _ => rfl
  rw [whole, h]
  simp only [Session.bind_eq, Session.story_bind, Session.outcome_put, Session.story_put,
    Session.outcome_tell, Session.story_tell, Session.story_ensure, Session.pure_eq_done,
    Session.story_done, hflush, Step.notes_append, Step.notes_wrote hheader,
    Step.notes_logged hopened, Step.notes_logged hclosed, Step.notes_nil, List.nil_append,
    List.append_nil]

end

end Demonstration

namespace CommandLine.Program

open Call Rpc Demonstration

theorem level_summary (c : Settings.Connection) : ∀ e ∈ c.summary, e.level ≠ .warn := by
  obtain ⟨target, forceRaw, timeout⟩ := c
  intro e he
  simp only [Settings.Connection.summary, List.mem_append, List.mem_cons, List.not_mem_nil,
    or_false] at he
  rcases he with ((rfl | rfl) | he) | rfl
  · exact nofun
  · exact nofun
  · split at he
    next =>
      rw [List.mem_singleton.mp he]
      exact nofun
    next => cases he
  · cases timeout <;> exact nofun

section

variable {State : Type} (world : World Ask Ask.Answer State) (sink : Sink) (state : State)
  (bindings : Bool) (env : Settings.Environment) (settings : Settings)

/-- What the program does before its closing event. -/
def beforeClosing : List (Step Ask) :=
  .logged (.say .info programName ("tokio_php_client " ++ version) []) ::
    settings.connection.summary.map .logged ++
      (whole bindings env settings.connection).story world state

/-- A program that completes tells its tally last. -/
theorem steps_of_complete {tally : Tally}
    (h : ((session bindings env settings).run world sink state).result = .ok (.ok tally)) :
    ((whole bindings env settings.connection).outcome world state).1 = .ok tally ∧
      ((session bindings env settings).run world sink state).steps =
        beforeClosing world state bindings env settings ++ [.logged (closingEvent tally)] := by
  obtain ⟨houtcome, hsteps⟩ := Session.run_of_ok h
  have hwhole := (session_story world state bindings env settings).1.symm.trans houtcome
  refine ⟨hwhole, ?_⟩
  rw [hsteps]
  simp only [session, Session.bind_eq, Session.story_bind, Session.outcome_tell,
    Session.story_tell, Session.outcome_tellAll, Session.story_tellAll, hwhole, beforeClosing,
    List.cons_append, List.nil_append, List.append_assoc]
  rfl

theorem accounts_beforeClosing {tally : Tally}
    (h : ((whole bindings env settings.connection).outcome world state).1 = .ok tally) :
    Accounts (failuresOver world state bindings env settings.connection) tally
      (Step.events (beforeClosing world state bindings env settings))
      (Step.texts (beforeClosing world state bindings env settings)) := by
  cases htarget : Endpoint.ofTarget settings.connection.target with
  | error refusal =>
    rw [(whole_refused world state bindings env _ htarget).1] at h
    cases h
  | ok uri =>
    obtain ⟨hcount, hnotes⟩ := accounts_overChannel world state bindings env settings.connection
    have htally := (whole_accepted world state bindings env _ htarget).1.symm.trans h
    cases htally
    refine accounts_of_notes hcount ?_
    have hstart : (Log.Event.say .info programName ("tokio_php_client " ++ version) []).level ≠
        .warn := nofun
    have hsummary := Session.leaves_tellAll (level_summary settings.connection) State world state
    rw [Session.story_tellAll] at hsummary
    rw [beforeClosing, List.cons_append, Step.notes_logged hstart, Step.notes_append, hsummary,
      List.nil_append, notes_whole world state bindings env _ htarget, hnotes]

end

/-- The program closes with a warning exactly when a call failed. -/
theorem closingEvent_eq_iff {failures : List FailedCall} {tally : Tally}
    (h : tally.failed = failures.length) :
    closingEvent tally = .say .warn programName "Some calls failed"
        [("succeeded", .number tally.succeeded), ("failed", .number tally.failed)] ↔
      failures ≠ [] := by
  have hzero : tally.failed = 0 ↔ failures = [] := by
    rw [h, List.length_eq_zero_iff]
  rw [closingEvent, ne_eq, ← hzero]
  by_cases hfailed : tally.failed = 0
  · rw [if_pos hfailed]
    exact ⟨nofun, fun hne => absurd hfailed hne⟩
  · rw [if_neg hfailed]
    exact ⟨fun _ => hfailed, fun _ => rfl⟩

/-- **Three accounts of failure.** However the calls of a run come out, if it comes to a tally, the
tally, the warnings in its log and its error lines tell of the same failed calls: of the typed calls
those that failed, in the order of the calls, and of the raw calls the probe. A warning names the
call and the code of its failure, and the error line ends with that code. The program does the same
and then closes with the counts of the tally, with a warning exactly when a call failed. -/
theorem failures_accounted :
    (∀ {State : Type} (world : World Api Api.Outcome State) (sink : Sink) (state : State)
        {tally : Tally},
      let r := fourCalls.run world sink state
      r.result = .ok tally →
      let failures := (Outcomes.ofWorld world state).failures
      Accounts failures tally r.events r.texts ∧
        (failures.map FailedCall.nameField).Sublist (callNames.map callField)) ∧
    (∀ {State : Type} (bindings : Bool) (world : World Ask Ask.Answer State) (sink : Sink)
        (state : State) {tally : Tally},
      let r := (probe bindings).run world sink state
      r.result = .ok tally →
      Accounts (failedProbe (world (.unary probeRequest) state).1) tally r.events r.texts) ∧
    (∀ c : FailedCall, c.warning.level = .warn ∧ c.nameField ∈ c.warning.fields ∧
      ("code", .shown c.failure.code.name) ∈ c.warning.fields ∧
      ∃ front, c.line = front ++ "(code: " ++ c.failure.code.name ++ ")\n") ∧
    ∀ {State : Type} (world : World Ask Ask.Answer State) (sink : Sink) (state : State)
        (bindings : Bool) (env : Settings.Environment) (settings : Settings) {tally : Tally},
      let r := (session bindings env settings).run world sink state
      r.result = .ok (.ok tally) →
      let failures := failuresOver world state bindings env settings.connection
      ∃ before, r.events = before ++ [closingEvent tally] ∧
        Accounts failures tally before r.texts ∧
        (closingEvent tally = .say .warn programName "Some calls failed"
            [("succeeded", .number tally.succeeded), ("failed", .number tally.failed)] ↔
          failures ≠ []) := by
  refine ⟨?_, ?_, ?_, ?_⟩
  · intro State world sink state tally r h failures
    obtain ⟨rfl, hsteps⟩ := Session.run_of_ok h
    refine ⟨?_, sublist_failures _⟩
    rw [r.events_eq, r.texts_eq, hsteps]
    exact accounts_of_notes (failed_fourCalls world state) (notes_fourCalls world state)
  · intro State bindings world sink state tally r h
    obtain ⟨rfl, hsteps⟩ := Session.run_of_ok h
    rw [r.events_eq, r.texts_eq, hsteps]
    exact accounts_of_notes (failed_probe bindings world state) (notes_probe bindings world state)
  · exact fun c => ⟨c.level_warning, c.fields_warning.1, c.fields_warning.2, c.line_eq⟩
  · intro State world sink state bindings env settings tally r h failures
    obtain ⟨hwhole, hsteps⟩ := steps_of_complete world sink state bindings env settings h
    have haccounts := accounts_beforeClosing world state bindings env settings hwhole
    rw [r.events_eq, r.texts_eq, hsteps, Step.events_append_logged, Step.texts_append_logged]
    exact ⟨_, rfl, haccounts, closingEvent_eq_iff haccounts.counted⟩

/-- A server that is healthy but runs no script, and whose stream breaks off after a chunk. -/
def halfBroken : World Api Api.Outcome Unit
  | .check _, _ => (.ok { status := 1 }, ())
  | .execute _, _ => (.error ⟨.notFound, "script not found"⟩, ())
  | .executeStream _, _ => (.ok [.ok {}, .error ⟨.internal, "worker crashed"⟩], ())

/-- The failures of a server that is half broken, of a probe without a server, and of a program
without one. -/
theorem failures_accounted_half_broken :
    let typed := fourCalls.run halfBroken { flushFails := true } ()
    let raw := (probe false).run noServer {} ()
    let whole := (session true .empty {}).run noServer {} ()
    Accounts [.typed "Execute" ⟨.notFound, "script not found"⟩,
        .typed "Execute" ⟨.notFound, "script not found"⟩,
        .typed "ExecuteStream" ⟨.internal, "worker crashed"⟩]
      { succeeded := 1, failed := 3 } typed.events typed.texts ∧
    Accounts [.raw .check ⟨.unavailable, "no server"⟩] { succeeded := 0, failed := 1 }
      raw.events raw.texts ∧
    ∃ before, whole.events = before ++ [closingEvent { succeeded := 0, failed := 4 }] := by
  intro typed raw whole
  obtain ⟨htyped, hraw, -, hprogram⟩ := failures_accounted
  have h₁ : typed.result = .ok { succeeded := 1, failed := 3 } := by rfl
  have h₂ : raw.result = .ok { succeeded := 0, failed := 1 } := by rfl
  have h₃ : whole.result = .ok (.ok { succeeded := 0, failed := 4 }) := by rfl
  refine ⟨(htyped halfBroken _ () h₁).1, hraw false noServer _ () h₂, ?_⟩
  obtain ⟨before, hevents, -⟩ := hprogram noServer _ () true .empty {} h₃
  exact ⟨before, hevents⟩

end CommandLine.Program

end ScriptClient
