import ScriptClient.Proofs.CommandLine.Accounts
import ScriptClient.Proofs.Log.Message

set_option autoImplicit false

/-! # What the log says about failed calls

The warning about a failed call says why the call failed, in the words of the server. Its line keeps
these words but for the quotes at their end (`FailedCall.shownMessage`), and the lines of a run say
so of its failed calls, one by one (`messages_shown`). -/

namespace ScriptClient

namespace Demonstration

open Call Rpc

namespace FailedCall

/-- How the warning about the call begins. -/
def opening : FailedCall → String
  | typed _ _ => "Call failed: "
  | raw _ _ => "Raw call failed: "

/-- What a log line says about the call. -/
def shownMessage (c : FailedCall) : String :=
  c.opening ++ Log.dropEndQuotes c.failure.message

theorem messageIs_warning (c : FailedCall) :
    c.warning.MessageIs (.shown (c.opening ++ c.failure.message)) := by
  cases c with
  | typed call f => exact ⟨[], _, rfl, by simp [Log.messageField]⟩
  | raw method f => exact ⟨[], _, rfl, by simp [Log.messageField]⟩

theorem unquoted_opening (c : FailedCall) : c.opening ≠ "" ∧ Log.Unquoted c.opening := by
  cases c with
  | typed call f => exact (by decide : "Call failed: " ≠ "" ∧ Log.Unquoted "Call failed: ")
  | raw method f => exact (by decide : "Raw call failed: " ≠ "" ∧ Log.Unquoted "Raw call failed: ")

theorem stripQuotes_warning (c : FailedCall) :
    Log.Collected.stripQuotes (c.opening ++ c.failure.message) = c.shownMessage :=
  Log.stripQuotes_append c.unquoted_opening.1 c.unquoted_opening.2 c.failure.message

theorem shownMessage?_warning (service time : String) (c : FailedCall) :
    Log.shownMessage? (c.warning.line service time) = some c.shownMessage := by
  rw [Log.shownMessage?_line, c.messageIs_warning.message?_eq rfl, c.stripQuotes_warning]
  rfl

theorem shownMessage_eq_iff (c : FailedCall) :
    c.shownMessage = c.opening ++ c.failure.message ↔
      c.failure.message.toList.getLast? ≠ some '"' := by
  rw [shownMessage, String.append_right_inj, Log.dropEndQuotes_eq_self_iff]

end FailedCall

namespace Accounts

variable {failures : List FailedCall} {tally : Tally} {events : List Log.Event}
  {texts : List String}

theorem warnings_eq (h : Accounts failures tally events texts) :
    events.filter (·.level = .warn) = failures.map FailedCall.warning := by
  rw [← h.warned (fun _ => true) fun _ _ _ => rfl, List.filter_true]

theorem warning_mem (h : Accounts failures tally events texts) {c : FailedCall}
    (hc : c ∈ failures) : c.warning ∈ events :=
  List.mem_of_mem_filter (h.warnings_eq ▸ List.mem_map_of_mem hc)

/-- The lines of the warnings say in order what there is to say of the failed calls. -/
theorem shownMessage?_lines (h : Accounts failures tally events texts) (service time : String) :
    (events.filter (·.level = .warn)).map (fun e => Log.shownMessage? (e.line service time)) =
      failures.map fun c => some c.shownMessage := by
  rw [h.warnings_eq, List.map_map]
  exact List.map_congr_left fun c _ => c.shownMessage?_warning service time

end Accounts

end Demonstration

namespace CommandLine.Program

open Call Rpc Demonstration

section

variable {State : Type} {bindings : Bool} {arguments : List String} {env : Settings.Environment}
  {settings : Settings} {stderr : List String}

/-- A run that succeeds came to a tally. -/
theorem complete_of_exit (hstart : start arguments env = .go settings stderr)
    {world : World Ask Ask.Answer State} {sink : Sink} {time : String} {state : State}
    (h : (run bindings arguments env world sink time state).exit = 0) :
    ∃ tally, ((session bindings env settings).run world sink state).result = .ok (.ok tally) := by
  rw [run, hstart] at h
  simp only at h
  generalize ((session bindings env settings).run world sink state).result = result at h ⊢
  cases result with
  | error fault => cases h
  | ok outcome =>
    cases outcome with
    | error refusal => cases h
    | ok tally => exact ⟨tally, rfl⟩

/-- In a log of JSON, a run that succeeds has a line for every failed call whose warning it shows,
and the line says why the call failed. -/
theorem exists_line (hstart : start arguments env = .go settings stderr)
    (hformat : settings.logging.format = .json) (world : World Ask Ask.Answer State) (sink : Sink)
    (time : String) (state : State)
    (hexit : (run bindings arguments env world sink time state).exit = 0) {c : FailedCall}
    (hc : c ∈ failuresOver world state bindings env settings.connection)
    (hshows : (Log.filterOf settings.logging).shows c.warning = true) :
    ∃ line ∈ (run bindings arguments env world sink time state).stderr,
      Log.shownMessage? line = some c.shownMessage := by
  obtain ⟨tally, hresult⟩ := complete_of_exit hstart hexit
  obtain ⟨hwhole, hsteps⟩ := steps_of_complete world sink state bindings env settings hresult
  have haccounts := accounts_beforeClosing world state bindings env settings hwhole
  have hevent : c.warning ∈ ((session bindings env settings).run world sink state).events := by
    rw [Run.events_eq, hsteps, Step.events_append_logged]
    exact List.mem_append_left _ (haccounts.warning_mem hc)
  refine ⟨_, ?_, c.shownMessage?_warning settings.logging.serviceName time⟩
  rw [run, hstart]
  refine List.mem_append_left _ (List.mem_append_right _ (List.mem_filterMap.mpr ⟨_, hevent, ?_⟩))
  rw [Log.Event.display?, if_pos hshows, hformat]

end

/-- **Messages in log lines.** A message that was recorded as a text is read back from the line of
its event as it is. One that was recorded through the text it is shown by is read back without the
quotes at its ends, so as it is exactly if it has none. No message is among the data, but numbers and
truth values that were recorded under its name are, and they alone. The warning about a failed call
says why it failed, unchanged exactly if that does not end with a quote. So do the warnings of a run
for its failed calls, in the order of the calls, and so does the program: if its log is JSON and it
succeeds, each failed call whose warning is shown has a line. -/
theorem messages_shown (service time : String) :
    (∀ (e : Log.Event) (s : String),
      (e.MessageIs (.text s) → Log.shownMessage? (e.line service time) = some s) ∧
      (e.MessageIs (.shown s) →
        Log.shownMessage? (e.line service time) = some (Log.Collected.stripQuotes s) ∧
          (Log.shownMessage? (e.line service time) = some s ↔ Log.Unquoted s))) ∧
    (∀ e : Log.Event, (Log.shownDatum? (e.line service time) Log.messageField).isSome ↔
      (∃ n, (Log.messageField, .number n) ∈ e.fields) ∨
        ∃ b, (Log.messageField, .bool b) ∈ e.fields) ∧
    (∀ c : FailedCall,
      Log.shownMessage? (c.warning.line service time) = some c.shownMessage ∧
        (c.shownMessage = c.opening ++ c.failure.message ↔
          c.failure.message.toList.getLast? ≠ some '"')) ∧
    (∀ {State : Type} (world : World Api Api.Outcome State) (sink : Sink) (state : State)
        {tally : Tally},
      let r := fourCalls.run world sink state
      r.result = .ok tally →
      (r.events.filter (·.level = .warn)).map (fun e => Log.shownMessage? (e.line service time)) =
        (Outcomes.ofWorld world state).failures.map fun c => some c.shownMessage) ∧
    (∀ {State : Type} (bindings : Bool) (world : World Ask Ask.Answer State) (sink : Sink)
        (state : State) {tally : Tally},
      let r := (probe bindings).run world sink state
      r.result = .ok tally →
      (r.events.filter (·.level = .warn)).map (fun e => Log.shownMessage? (e.line service time)) =
        (failedProbe (world (.unary probeRequest) state).1).map fun c => some c.shownMessage) ∧
    ∀ {State : Type} (bindings : Bool) (arguments : List String) (env : Settings.Environment)
        (world : World Ask Ask.Answer State) (sink : Sink) (state : State) {settings : Settings}
        {stderr : List String},
      let r := run bindings arguments env world sink time state
      start arguments env = .go settings stderr → settings.logging.format = .json → r.exit = 0 →
      ∀ c ∈ failuresOver world state bindings env settings.connection,
        (Log.filterOf settings.logging).shows c.warning = true →
        ∃ line ∈ r.stderr, Log.shownMessage? line = some c.shownMessage := by
  refine ⟨?_, Log.isSome_shownDatum?_line service time, ?_, ?_, ?_, ?_⟩
  · intro e s
    refine ⟨fun h => ?_, fun h => ?_⟩
    · rw [Log.shownMessage?_line, h.message?_eq rfl]
      rfl
    · have hshown : Log.shownMessage? (e.line service time) =
          some (Log.Collected.stripQuotes s) := by
        rw [Log.shownMessage?_line, h.message?_eq rfl]
        rfl
      refine ⟨hshown, ?_⟩
      rw [hshown, Option.some.injEq, Log.stripQuotes_eq_self_iff]
  · exact fun c => ⟨c.shownMessage?_warning service time, c.shownMessage_eq_iff⟩
  · intro State world sink state tally r h
    obtain ⟨rfl, hsteps⟩ := Session.run_of_ok h
    rw [r.events_eq, hsteps]
    exact (accounts_of_notes (failed_fourCalls world state)
      (notes_fourCalls world state)).shownMessage?_lines service time
  · intro State bindings world sink state tally r h
    obtain ⟨rfl, hsteps⟩ := Session.run_of_ok h
    rw [r.events_eq, hsteps]
    exact (accounts_of_notes (failed_probe bindings world state)
      (notes_probe bindings world state)).shownMessage?_lines service time
  · intro State bindings arguments env world sink state settings stderr r hstart hformat hexit c hc
      hshows
    exact exists_line hstart hformat world sink time state hexit hc hshows

/-- An environment that asks for a log of JSON. -/
def jsonEnvironment : Settings.Environment :=
  Settings.Environment.empty.set "LOG_FORMAT" (Text.Utf8.encode "json")

/-- Two messages with quotes that do not stand at their ends, and the lines for the failures of a
server that is half broken, of a probe without a server, and of a program without one. -/
theorem messages_shown_half_broken :
    let e : Log.Event := ⟨.error, "client", [("message", .text "no \"index\" here")]⟩
    let e' : Log.Event := .say .error "client" "no \"index\" here" [("attempt", .number 2)]
    let messages (events : List Log.Event) : List (Option String) :=
      (events.filter (·.level = .warn)).map fun e => Log.shownMessage? (e.line "svc" "now")
    Log.shownMessage? (e.line "svc" "now") = some "no \"index\" here" ∧
      Log.shownMessage? (e'.line "svc" "now") = some "no \"index\" here" ∧
      messages (fourCalls.run halfBroken { flushFails := true } ()).events =
        [some "Call failed: script not found", some "Call failed: script not found",
          some "Call failed: worker crashed"] ∧
      messages ((probe false).run noServer {} ()).events = [some "Raw call failed: no server"] ∧
      ∃ line ∈ (run true [] jsonEnvironment noServer {} "now" ()).stderr,
        Log.shownMessage? line = some "Call failed: no server" := by
  intro e e' messages
  obtain ⟨hmessage, -, -, htyped, hraw, hprogram⟩ := messages_shown "svc" "now"
  have he : e.MessageIs (.text "no \"index\" here") := ⟨[], [], rfl, fun _ => nofun⟩
  have he' : e'.MessageIs (.shown "no \"index\" here") := ⟨[], _, rfl, by simp [Log.messageField]⟩
  have hunquoted : Log.Unquoted "no \"index\" here" := by decide
  have h₁ : (fourCalls.run halfBroken { flushFails := true } ()).result =
      .ok { succeeded := 1, failed := 3 } := by rfl
  have h₂ : ((probe false).run noServer {} ()).result = .ok { succeeded := 0, failed := 1 } := by
    rfl
  have hstart : start [] jsonEnvironment = .go { logging := { format := .json } } [] := by rfl
  have hexit : (run true [] jsonEnvironment noServer {} "now" ()).exit = 0 := by rfl
  refine ⟨(hmessage e _).1 he, ((hmessage e' _).2 he').2.mpr hunquoted, ?_, ?_, ?_⟩
  · exact (htyped halfBroken _ () h₁).trans (by decide)
  · exact (hraw false noServer _ () h₂).trans (by decide)
  · have hfailed : ∃ rest, failuresOver noServer () true jsonEnvironment {} =
        .typed "Check" ⟨.unavailable, "no server"⟩ :: rest := ⟨_, rfl⟩
    obtain ⟨rest, hrest⟩ := hfailed
    exact hprogram true [] jsonEnvironment noServer {} () hstart rfl hexit
      (.typed "Check" ⟨.unavailable, "no server"⟩) (hrest ▸ List.mem_cons_self) (by decide)

/-- Quotes at the ends of a message are lost, also those that a server sent, and a number under its
name is no message. -/
theorem quotes_lost :
    let e : Log.Event := .say .error "client" "\"quoted\"" []
    let c : FailedCall := .typed "Execute" ⟨.notFound, "no script \"index.php\""⟩
    let numbered : Log.Event := ⟨.error, "client", [("message", .number 2)]⟩
    Log.shownMessage? (e.line "svc" "now") = some "quoted" ∧
      Log.shownMessage? (c.warning.line "svc" "now") =
        some "Call failed: no script \"index.php" ∧
      Log.shownMessage? (numbered.line "svc" "now") = some "" ∧
      (Log.shownDatum? (numbered.line "svc" "now") "message").isSome := by
  intro e c numbered
  refine ⟨?_, ?_, ?_, ?_⟩
  · rw [Log.shownMessage?_line]
    decide
  · rw [c.shownMessage?_warning]
    decide
  · rw [Log.shownMessage?_line]
    decide
  · exact (Log.isSome_shownDatum?_line "svc" "now" numbered).mpr (.inl ⟨2, List.mem_singleton_self _⟩)

end CommandLine.Program

end ScriptClient
