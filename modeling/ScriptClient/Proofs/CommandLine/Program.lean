import ScriptClient.CommandLine.Program
import ScriptClient.Proofs.Demonstration.Whole

set_option autoImplicit false

/-! # What the program does

The exit status of a run and everything it writes and sends, for all arguments that ask for a run
and all environments. The program succeeds when its settings load, its log filter is not torn and
its target is accepted, whatever it is answered. `run_spec` is the main result. -/

namespace ScriptClient.CommandLine

open Call Rpc Demonstration

/-! ## The settings of a run -/

/-- The target of a run: the one that the arguments name, or else the one of the settings. -/
def Arguments.target (a : Arguments) (settings : Settings) : String :=
  a.host.getD settings.connection.target

@[simp]
theorem target_apply (a : Arguments) (settings : Settings) :
    (a.apply settings).connection.target = a.target settings := by
  obtain ⟨host, raw⟩ := a
  cases host <;> cases raw <;> rfl

@[simp]
theorem forceRaw_apply (a : Arguments) (settings : Settings) :
    (a.apply settings).connection.forceRaw = (settings.connection.forceRaw || a.raw) := by
  obtain ⟨host, raw⟩ := a
  cases raw with
  | true => cases host <;> exact (Bool.or_true _).symm
  | false => cases host <;> exact (Bool.or_false _).symm

theorem forceRaw_of_load {env : Settings.Environment} {settings : Settings}
    (h : Settings.load env = .ok settings) :
    settings.connection.forceRaw = env.getFlag "GRPC_RAW" false := by
  have hconnection : Settings.Connection.load env = .ok settings.connection := by
    unfold Settings.load at h
    split at h
    next => cases h
    next connection hload =>
      split at h
      next => cases h
      next => cases h; exact hload
  unfold Settings.Connection.load at hconnection
  split at hconnection
  next => cases hconnection
  next target htarget =>
    split at hconnection
    next => cases hconnection
    next timeout htimeout => rw [← Except.ok.inj hconnection]

namespace Program

/-! ## Before anything is called -/

section

variable {arguments : List String} {a : Arguments} {env : Settings.Environment}

theorem start_of_problem (ha : Command.parse arguments = .run a) {problem : Settings.Problem}
    (h : Settings.load env = .error problem) :
    start arguments env = .stop 1 "" ["Error: " ++ problem.debug] := by
  rw [start, ha, h]

theorem start_of_torn (ha : Command.parse arguments = .run a) {settings : Settings}
    (h : Settings.load env = .ok settings)
    (htorn : Log.Filter.parse settings.logging.filter = .error .torn) :
    ∃ stderr, start arguments env = .stop brokenOff "" stderr := by
  refine ⟨(Settings.Logging.levelWarning? env).toList ++ [tornFilterText], ?_⟩
  rw [start, ha, h]
  simp only [htorn]

theorem start_of_whole (ha : Command.parse arguments = .run a) {settings : Settings}
    (h : Settings.load env = .ok settings)
    (hwhole : Log.Filter.parse settings.logging.filter ≠ .error .torn) :
    ∃ stderr, start arguments env = .go (a.apply settings) stderr := by
  refine ⟨(Settings.Logging.levelWarning? env).toList, ?_⟩
  simp only [start, ha, h]

end

/-! ## The session -/

section

variable {State : Type} (world : World Ask Ask.Answer State) (state : State) (bindings : Bool)
  (env : Settings.Environment) (settings : Settings)

/-- All that the program does besides logging is the demonstration, and its result is that of the
demonstration. -/
theorem session_story :
    ((session bindings env settings).outcome world state).1 =
        ((whole bindings env settings.connection).outcome world state).1 ∧
      Step.written ((session bindings env settings).story world state) =
        Step.written ((whole bindings env settings.connection).story world state) ∧
      Step.questions ((session bindings env settings).story world state) =
        Step.questions ((whole bindings env settings.connection).story world state) := by
  simp only [session, Session.bind_eq, Session.story_bind, Session.outcome_bind,
    Session.outcome_tell, Session.story_tell, Session.outcome_tellAll, Session.story_tellAll,
    Step.written_append, Step.questions_append, Step.written_logged, Step.written_nil,
    Step.questions_logged, Step.questions_nil, Step.written_map_logged, Step.questions_map_logged,
    String.empty_append, List.nil_append]
  cases ((whole bindings env settings.connection).outcome world state).1 with
  | error refusal => exact ⟨rfl, String.append_empty, List.append_nil _⟩
  | ok tally => exact ⟨rfl, String.append_empty, List.append_nil _⟩

end

/-! ## Runs -/

/-- The exit status of a run, which the world has no part in. -/
def exitStatus (a : Arguments) (env : Settings.Environment) : Nat :=
  match Settings.load env with
  | .error _ => 1
  | .ok settings =>
    match Log.Filter.parse settings.logging.filter with
    | .error .torn => brokenOff
    | _ =>
      match Endpoint.ofTarget (a.target settings) with
      | .error _ => 1
      | .ok _ => 0

theorem exitStatus_eq_zero_iff (a : Arguments) (env : Settings.Environment) :
    exitStatus a env = 0 ↔
      ∃ settings uri, Settings.load env = .ok settings ∧
        Log.Filter.parse settings.logging.filter ≠ .error .torn ∧
        Endpoint.ofTarget (a.target settings) = .ok uri := by
  unfold exitStatus
  split
  next problem hload => simp [hload]
  next settings hload =>
    split
    next htorn => simp [hload, htorn, brokenOff]
    next hwhole =>
      split
      next refusal htarget => simp [hload, htarget]
      next uri htarget => simpa [hload, htarget] using hwhole

section

variable {State : Type} (bindings : Bool) {arguments : List String} {a : Arguments}
  {env : Settings.Environment} (world : World Ask Ask.Answer State) (time : String) (state : State)

/-- A run whose settings do not load writes and asks nothing. -/
theorem run_of_problem (ha : Command.parse arguments = .run a) {problem : Settings.Problem}
    (h : Settings.load env = .error problem) :
    (run bindings arguments env world {} time state).exit = 1 ∧
      (run bindings arguments env world {} time state).stdout = [] ∧
      (run bindings arguments env world {} time state).questions = [] := by
  rw [run, start_of_problem ha h]
  exact ⟨rfl, rfl, rfl⟩

/-- A run whose log filter is torn breaks off before it writes or asks anything. -/
theorem run_of_torn (ha : Command.parse arguments = .run a) {settings : Settings}
    (h : Settings.load env = .ok settings)
    (htorn : Log.Filter.parse settings.logging.filter = .error .torn) :
    (run bindings arguments env world {} time state).exit = brokenOff ∧
      (run bindings arguments env world {} time state).stdout = [] ∧
      (run bindings arguments env world {} time state).questions = [] := by
  obtain ⟨stderr, hstart⟩ := start_of_torn ha h htorn
  rw [run, hstart]
  exact ⟨rfl, rfl, rfl⟩

/-- A run that gets as far is its demonstration. -/
theorem run_of_whole (ha : Command.parse arguments = .run a) {settings : Settings}
    (h : Settings.load env = .ok settings)
    (hwhole : Log.Filter.parse settings.logging.filter ≠ .error .torn) :
    let c := (a.apply settings).connection
    let r := run bindings arguments env world {} time state
    r.exit = (match ((whole bindings env c).outcome world state).1 with
      | .error _ => 1
      | .ok _ => 0) ∧
      r.stdout = Text.Utf8.encode (Step.written ((whole bindings env c).story world state)) ∧
      r.questions = Step.questions ((whole bindings env c).story world state) := by
  intro c r
  obtain ⟨stderr, hstart⟩ := start_of_whole ha h hwhole
  obtain ⟨hresult, hwritten, hquestions⟩ :=
    session_story world state bindings env (a.apply settings)
  have hroom : ({} : Sink).room = none := rfl
  have hrun := Session.run_eq_story world (session bindings env (a.apply settings)) hroom (.inl rfl)
    state
  simp only [r, run, hstart, hrun, hresult, Run.questions_eq]
  refine ⟨?_, congrArg _ hwritten, hquestions⟩
  cases ((whole bindings env c).outcome world state).1 <;> rfl

/-- What a run writes and asks whose target is refused: the banner, and nothing. -/
theorem run_of_refusal (ha : Command.parse arguments = .run a) {settings : Settings}
    (h : Settings.load env = .ok settings)
    (hwhole : Log.Filter.parse settings.logging.filter ≠ .error .torn) {refusal : Endpoint.Refusal}
    (htarget : Endpoint.ofTarget (a.target settings) = .error refusal) :
    (run bindings arguments env world {} time state).exit = 1 ∧
      (run bindings arguments env world {} time state).stdout =
        Text.Utf8.encode (Transcript.header (a.target settings)) ∧
      (run bindings arguments env world {} time state).questions = [] := by
  obtain ⟨hexit, hstdout, hquestions⟩ := run_of_whole bindings world time state ha h hwhole
  rw [← target_apply] at htarget
  obtain ⟨hresult, hwritten, hnone⟩ := whole_refused world state bindings env _ htarget
  rw [hexit, hstdout, hquestions, hresult, hwritten, hnone, target_apply]
  exact ⟨rfl, rfl, rfl⟩

/-- What a run writes and asks whose target is accepted: the banner, and what the calls of its mode
write and ask. -/
theorem run_of_accepted (ha : Command.parse arguments = .run a) {settings : Settings}
    (h : Settings.load env = .ok settings)
    (hwhole : Log.Filter.parse settings.logging.filter ≠ .error .torn) {uri : Endpoint.Uri}
    (htarget : Endpoint.ofTarget (a.target settings) = .ok uri) :
    let calls := overChannel bindings env (a.apply settings).connection
    let r := run bindings arguments env world {} time state
    r.exit = 0 ∧
      r.stdout = Text.Utf8.encode (Transcript.header (a.target settings) ++
        Step.written (calls.story world state)) ∧
      r.questions = Step.questions (calls.story world state) := by
  intro calls r
  obtain ⟨hexit, hstdout, hquestions⟩ := run_of_whole bindings world time state ha h hwhole
  rw [← target_apply] at htarget
  obtain ⟨hresult, hwritten, hsame⟩ := whole_accepted world state bindings env _ htarget
  rw [hexit, hstdout, hquestions, hresult, hwritten, hsame, target_apply]
  exact ⟨rfl, rfl, rfl⟩

theorem exit_run (ha : Command.parse arguments = .run a) :
    (run bindings arguments env world {} time state).exit = exitStatus a env := by
  unfold exitStatus
  split
  next problem hload => exact (run_of_problem bindings world time state ha hload).1
  next settings hload =>
    split
    next htorn => exact (run_of_torn bindings world time state ha hload htorn).1
    next hwhole =>
      split
      next refusal htarget =>
        exact (run_of_refusal bindings world time state ha hload hwhole htarget).1
      next uri htarget =>
        exact (run_of_accepted bindings world time state ha hload hwhole htarget).1

/-- **What the program does.** For arguments that ask for a run, in every environment and every
world, the program succeeds exactly when its settings load, its log filter is not torn and its
target is accepted. A run that stops before its target is looked at writes and asks nothing, and one
whose target is refused writes the banner. Else the program writes the banner and the transcript of
one mode: of the four typed calls, if messages are built in and nothing asks for raw calls, and of
the probe otherwise. -/
theorem run_spec (ha : Command.parse arguments = .run a) (env : Settings.Environment) :
    let r := run bindings arguments env world {} time state
    (r.exit = 0 ↔ ∃ settings uri, Settings.load env = .ok settings ∧
      Log.Filter.parse settings.logging.filter ≠ .error .torn ∧
      Endpoint.ofTarget (a.target settings) = .ok uri) ∧
    (∀ {State' : Type} (world' : World Ask Ask.Answer State') (time' : String) (state' : State'),
      (run bindings arguments env world' {} time' state').exit = r.exit) ∧
    (∀ problem, Settings.load env = .error problem → r.stdout = [] ∧ r.questions = []) ∧
    ∀ settings, Settings.load env = .ok settings →
      (Log.Filter.parse settings.logging.filter = .error .torn →
        r.exit = 101 ∧ r.stdout = [] ∧ r.questions = []) ∧
      (Log.Filter.parse settings.logging.filter ≠ .error .torn →
        (∀ refusal, Endpoint.ofTarget (a.target settings) = .error refusal →
          r.stdout = Text.Utf8.encode (Transcript.header (a.target settings)) ∧
            r.questions = []) ∧
        ∀ uri, Endpoint.ofTarget (a.target settings) = .ok uri →
          if bindings && !(env.getFlag "GRPC_RAW" false || a.raw) then
            r.stdout = Text.Utf8.encode (Transcript.header (a.target settings) ++
                (typedOutcomes world state env).transcript) ∧
              r.questions.flatMap (fun q => (callOf? q).toList) =
                [(false, "/tokio_php.v1.PhpService/Check"),
                  (false, "/tokio_php.v1.PhpService/Execute"),
                  (false, "/tokio_php.v1.PhpService/Execute"),
                  (true, "/tokio_php.v1.PhpService/ExecuteStream")]
          else
            r.stdout = Text.Utf8.encode (Transcript.header (a.target settings) ++
                probeText bindings (world (.unary probeRequest) state).1) ∧
              r.questions = [.unary ⟨"/tokio_php.v1.PhpService/Check", ∅, []⟩]) := by
  intro r
  have hexit : r.exit = exitStatus a env := exit_run bindings world time state ha
  refine ⟨by rw [hexit, exitStatus_eq_zero_iff], ?_, ?_, ?_⟩
  · intro State' world' time' state'
    rw [hexit, exit_run bindings world' time' state' ha]
  · intro problem hload
    exact (run_of_problem bindings world time state ha hload).2
  · intro settings hload
    refine ⟨run_of_torn bindings world time state ha hload, ?_⟩
    intro hwhole
    refine ⟨?_, ?_⟩
    · intro refusal htarget
      exact (run_of_refusal bindings world time state ha hload hwhole htarget).2
    · intro uri htarget
      obtain ⟨_, hstdout, hquestions⟩ :=
        run_of_accepted bindings world time state ha hload hwhole htarget
      have hraw : (a.apply settings).connection.forceRaw =
          (env.getFlag "GRPC_RAW" false || a.raw) := by
        rw [forceRaw_apply, forceRaw_of_load hload]
      split
      next htyped =>
        obtain ⟨hbindings, hforce⟩ := Bool.and_eq_true_iff.mp htyped
        have hfree : (a.apply settings).connection.forceRaw = false := by
          rw [hraw]
          exact Bool.not_eq_true' _ ▸ hforce
        subst hbindings
        obtain ⟨hwritten, hcalls⟩ := overChannel_typed world state env _ hfree
        exact ⟨by rw [hstdout, hwritten], by rw [hquestions, hcalls]; rfl⟩
      next hprobe =>
        obtain ⟨hwritten, hasked⟩ := overChannel_raw world state bindings env _
          (by rw [hraw]; exact Bool.eq_false_iff.mpr hprobe)
        exact ⟨by rw [hstdout, hwritten], by rw [hquestions, hasked]; rfl⟩

end

/-- A world without a server. -/
def noServer : World Ask Ask.Answer Unit
  | .tick, _ => ((⟨0, 0⟩ : Trace.Tick), ())
  | .random, _ => ((⟨0, 0⟩ : RandomBits), ())
  | .unary _, _ => (.error ⟨.unavailable, "no server"⟩, ())
  | .streaming _, _ => (.error ⟨.unavailable, "no server"⟩, ())

/-- Without arguments and variables the program succeeds, also if no request is answered. -/
theorem run_without_arguments :
    Command.parse [] = .run {} ∧
      (run true [] Settings.Environment.empty noServer {} "" ()).exit = 0 := by
  refine ⟨rfl, (run_spec true noServer "" () rfl Settings.Environment.empty).1.mpr ?_⟩
  refine ⟨{}, ⟨false, "localhost:50051".toList, []⟩, rfl, ?_, rfl⟩
  intro htorn
  cases htorn

/-- An environment whose log filter is torn: its blank shifts the end of the target into a
character. -/
def tornEnvironment : Settings.Environment :=
  Settings.Environment.empty.set "RUST_LOG" (Text.Utf8.encode " é=info")

theorem parse_torn : Log.Filter.parse " é=info" = .error .torn := by
  have hpieces : (Text.splitAt ',' " é=info".toList).filter (· ≠ []) = [" é=info".toList] := by
    decide
  -- the target is two bytes long without the blank, and its second byte is inside a character
  -- of the directive with the blank
  have hdirective : Log.Directive.parse " é=info".toList = .error .torn := by
    have htrim : Text.trim " é=info".toList = 'é' :: "=info".toList := by decide
    have hfirst : Log.Directive.isFirst 'é' = true := by decide +kernel
    rw [Log.Directive.parse, htrim]
    show (if Log.Directive.isFirst 'é' then _ else _) = _
    rw [if_pos hfirst]
    rfl
  rw [Log.Filter.parse, hpieces]
  show [" é=info".toList].mapM Log.Directive.parse = _
  rw [List.mapM_cons, hdirective]
  rfl

/-- Settings that load and a target that is accepted are not enough: a torn filter breaks the run
off. -/
theorem torn_filter_breaks_run :
    Command.parse ["--host", "127.0.0.1:50051"] = .run { host := some "127.0.0.1:50051" } ∧
      (∃ settings uri, Settings.load tornEnvironment = .ok settings ∧
        Endpoint.ofTarget "127.0.0.1:50051" = .ok uri) ∧
      (run true ["--host", "127.0.0.1:50051"] tornEnvironment noServer {} "" ()).exit = 101 := by
  have hload : Settings.load tornEnvironment = .ok { logging := { filter := " é=info" } } := rfl
  refine ⟨rfl, ⟨_, ⟨false, "127.0.0.1:50051".toList, []⟩, hload, rfl⟩, ?_⟩
  exact (run_of_torn true noServer "" () rfl hload parse_torn).1

end Program

end ScriptClient.CommandLine
