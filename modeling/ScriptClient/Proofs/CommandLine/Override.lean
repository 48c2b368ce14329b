import ScriptClient.Proofs.CommandLine.Program
import ScriptClient.Proofs.Settings.Load

set_option autoImplicit false

/-! # A server that the arguments name

The server that the arguments name takes the place of the one in the environment, after the settings
were loaded. So it makes no difference which server the environment names, but a blank name keeps
the settings from loading, whatever the arguments are. `host_overrides` compares the runs in two
environments that differ in this name only. -/

namespace ScriptClient

namespace Settings

/-- The environments have the same texts in all variables but one. -/
def Environment.SameBut (env env' : Environment) (name : String) : Prop :=
  ∀ other, other ≠ name → env.get? other = env'.get? other

section

variable {env env' : Environment}

theorem Environment.SameBut.symm {name : String} (h : env.SameBut env' name) :
    env'.SameBut env name :=
  fun other hother => (h other hother).symm

/-- The log does not depend on the server. -/
theorem logging_load_congr (h : env.SameBut env' "GRPC_HOST") :
    Logging.load env = Logging.load env' := by
  simp only [Logging.load, Logging.loadFormat, Logging.loadFilter, Logging.levelWord?,
    Environment.getNonempty?, Environment.getD, h "LOG_FORMAT" (by decide),
    h "LOG_LEVEL" (by decide), h "RUST_LOG" (by decide), h "SERVICE_NAME" (by decide)]

theorem levelWarning?_congr (h : env.SameBut env' "GRPC_HOST") :
    Logging.levelWarning? env = Logging.levelWarning? env' := by
  simp only [Logging.levelWarning?, Logging.levelWord?, h "LOG_LEVEL" (by decide)]

/-- With two servers that are named, loading gives the same problem, or settings that differ in the
server. -/
theorem load_of_hosts (h : env.SameBut env' "GRPC_HOST") (hhost : env.host ≠ [])
    (hhost' : env'.host ≠ []) :
    load env' = (load env).map fun s =>
      { s with connection := s.connection.withTarget (String.ofList env'.host) } := by
  have htimeout : Connection.loadTimeout env' "GRPC_CONNECT_TIMEOUT" "off" =
      Connection.loadTimeout env "GRPC_CONNECT_TIMEOUT" "off" := by
    simp only [Connection.loadTimeout, Environment.getD, h "GRPC_CONNECT_TIMEOUT" (by decide)]
  have hraw : env'.getFlag "GRPC_RAW" false = env.getFlag "GRPC_RAW" false := by
    simp only [Environment.getFlag, h "GRPC_RAW" (by decide)]
  simp only [load, Connection.load, loadTarget_of_host hhost, loadTarget_of_host hhost', htimeout,
    hraw, ← logging_load_congr h]
  cases Connection.loadTimeout env "GRPC_CONNECT_TIMEOUT" "off" with
  | error problem => rfl
  | ok timeout =>
    cases Logging.load env with
    | error problem => rfl
    | ok logging => rfl

end

end Settings

namespace CommandLine

open Call Rpc Demonstration

/-- A server that the arguments name takes the place of any other. -/
theorem apply_withTarget {a : Arguments} {host : String} (h : a.host = some host)
    (settings : Settings) (target : String) :
    a.apply { settings with connection := settings.connection.withTarget target } =
      a.apply settings := by
  simp only [Arguments.apply, h]
  rfl

namespace Program

/-- The runs look the same from outside, but for their logs. -/
structure Outcome.LooksLike {State : Type} (r r' : Outcome State) : Prop where
  exit : r.exit = r'.exit
  stdout : r.stdout = r'.stdout
  questions : r.questions = r'.questions

section

variable {arguments : List String} {a : Arguments} {env env' : Settings.Environment}

/-- The program starts alike with servers that are both named, or both blank. -/
theorem start_congr (ha : Command.parse arguments = .run a) {host : String}
    (hhost : a.host = some host) (h : env.SameBut env' "GRPC_HOST")
    (hblank : env.host = [] ↔ env'.host = []) : start arguments env = start arguments env' := by
  by_cases hnil : env.host = []
  · rw [start_of_problem ha (Settings.load_of_firstProblem (.host hnil)),
      start_of_problem ha (Settings.load_of_firstProblem (.host (hblank.mp hnil)))]
  · rw [start, start, ha]
    simp only [Settings.load_of_hosts h hnil (hnil ∘ hblank.mpr), ← Settings.levelWarning?_congr h]
    cases Settings.load env with
    | error problem => rfl
    | ok settings => simp only [Except.map, apply_withTarget hhost]

/-- What the program does with its settings does not depend on the server in the environment. -/
theorem session_congr (h : env.SameBut env' "GRPC_HOST") (bindings : Bool) (settings : Settings) :
    session bindings env settings = session bindings env' settings := by
  have htrace : inheritedTrace env = inheritedTrace env' := by
    rw [inheritedTrace, inheritedTrace, h traceVariable (by decide)]
  simp only [session, whole, overChannel, Strategy.select, Client.inherited, htrace]

section

variable {State : Type} (bindings : Bool) (world : World Ask Ask.Answer State) (sink : Sink)
  (time : String) (state : State)

theorem run_congr (ha : Command.parse arguments = .run a) {host : String}
    (hhost : a.host = some host) (h : env.SameBut env' "GRPC_HOST")
    (hblank : env.host = [] ↔ env'.host = []) :
    run bindings arguments env world sink time state =
      run bindings arguments env' world sink time state := by
  simp only [run, start_congr ha hhost h hblank, session_congr h]

/-- A run whose settings do not load fails before it writes or asks anything. -/
theorem run_of_not_usable (ha : Command.parse arguments = .run a) (h : ¬ Settings.Usable env) :
    (run bindings arguments env world sink time state).exit = 1 ∧
      (run bindings arguments env world sink time state).stdout = [] ∧
      (run bindings arguments env world sink time state).questions = [] := by
  obtain ⟨problem, hproblem⟩ := (Settings.usable_or_firstProblem env).resolve_left h
  rw [run, start_of_problem ha (Settings.load_of_firstProblem hproblem)]
  exact ⟨rfl, rfl, rfl⟩

theorem encode_header_append_ne_nil (target text : String) :
    Text.Utf8.encode (Transcript.header target ++ text) ≠ [] := by
  have hbanner : Text.Utf8.encode (Transcript.line "=== tokio_php Rust gRPC Client ===") ≠ [] := by
    decide
  simp only [Transcript.header, Text.Utf8.encode_append, ne_eq, List.append_eq_nil_iff, hbanner,
    false_and, not_false_iff]

/-- A run whose settings load shows it, by another failure or by its banner. -/
theorem run_of_usable (ha : Command.parse arguments = .run a) (h : Settings.Usable env) :
    (run bindings arguments env world {} time state).exit = brokenOff ∨
      (run bindings arguments env world {} time state).stdout ≠ [] := by
  obtain ⟨settings, hload, -⟩ := Settings.load_of_usable h
  by_cases htorn : Log.Filter.parse settings.logging.filter = .error .torn
  · exact .inl (run_of_torn bindings world time state ha hload htorn).1
  right
  cases htarget : Endpoint.ofTarget (a.target settings) with
  | error refusal =>
    rw [(run_of_refusal bindings world time state ha hload htorn htarget).2.1,
      ← String.append_empty (s := Transcript.header _)]
    exact encode_header_append_ne_nil _ _
  | ok uri =>
    rw [(run_of_accepted bindings world time state ha hload htorn htarget).2.1]
    exact encode_header_append_ne_nil _ _

/-- **The server that the arguments name.** In two environments that differ only in the server that
they name, runs whose arguments name another one are equal, if both environments name one or both
names are blank. Such runs look the same from outside whenever the settings load in both
environments or in neither, and, as long as the transcript can be written, only then: a blank name
ends a run before it writes or asks anything. -/
theorem host_overrides (ha : Command.parse arguments = .run a) {host : String}
    (hhost : a.host = some host) (h : env.SameBut env' "GRPC_HOST") :
    let r (e : Settings.Environment) (sink : Sink) := run bindings arguments e world sink time state
    ((env.host = [] ↔ env'.host = []) → ∀ sink, r env sink = r env' sink) ∧
      ((Settings.Usable env ↔ Settings.Usable env') →
        ∀ sink, (r env sink).LooksLike (r env' sink)) ∧
      ((r env {}).LooksLike (r env' {}) → (Settings.Usable env ↔ Settings.Usable env')) ∧
      (env.host = [] → ∀ sink, (r env sink).exit = 1 ∧ (r env sink).stdout = [] ∧
        (r env sink).questions = []) := by
  intro r
  have hfails : ∀ {e}, ¬ Settings.Usable e → ∀ sink, (r e sink).exit = 1 ∧
      (r e sink).stdout = [] ∧ (r e sink).questions = [] := fun he sink =>
    run_of_not_usable bindings world sink time state ha he
  have hequal : (env.host = [] ↔ env'.host = []) → ∀ sink, r env sink = r env' sink :=
    fun hblank sink => run_congr bindings world sink time state ha hhost h hblank
  -- a run that succeeds or has a banner is told from one that does neither
  have htell : ∀ {e e'}, (r e {}).LooksLike (r e' {}) → Settings.Usable e → Settings.Usable e' := by
    intro e e' hlooks he
    by_contra he'
    obtain ⟨hexit, hstdout, -⟩ := hfails he' {}
    rcases run_of_usable bindings world time state ha he with hbroken | hne
    · exact absurd (hbroken.symm.trans (hlooks.exit.trans hexit)) (by decide)
    · exact hne (hlooks.stdout.trans hstdout)
  refine ⟨hequal, ?_, ?_, ?_⟩
  · intro husable sink
    by_cases he : Settings.Usable env
    · rw [hequal (iff_of_false he.host (husable.mp he).host) sink]
      exact ⟨rfl, rfl, rfl⟩
    · obtain ⟨hexit, hstdout, hnone⟩ := hfails he sink
      obtain ⟨hexit', hstdout', hnone'⟩ := hfails (mt husable.mpr he) sink
      exact ⟨hexit.trans hexit'.symm, hstdout.trans hstdout'.symm, hnone.trans hnone'.symm⟩
  · exact fun hlooks => ⟨htell hlooks, htell ⟨hlooks.exit.symm, hlooks.stdout.symm,
      hlooks.questions.symm⟩⟩
  · exact fun hnil => hfails fun husable => husable.host hnil

end

end

/-- An environment that names a server, by this text. -/
def hostEnvironment (text : String) : Settings.Environment :=
  Settings.Environment.empty.set "GRPC_HOST" (Text.Utf8.encode text)

theorem sameBut_hostEnvironment (text : String) :
    (hostEnvironment text).SameBut Settings.Environment.empty "GRPC_HOST" := by
  intro other hother
  simp [hostEnvironment, Settings.Environment.get?, Settings.Environment.set, hother,
    Settings.Environment.empty]

/-- Another server in the environment makes no difference to a run that is told its server. -/
theorem host_overrides_other :
    let arguments := ["--raw", "--host", "127.0.0.1:50051"]
    run true arguments (hostEnvironment "elsewhere:1") noServer {} "" () =
        run true arguments Settings.Environment.empty noServer {} "" () ∧
      (Settings.Usable (hostEnvironment "elsewhere:1") ↔
        Settings.Usable Settings.Environment.empty) := by
  intro arguments
  have ha : Command.parse arguments = .run { host := some "127.0.0.1:50051", raw := true } := rfl
  obtain ⟨hequal, -, hlooks, -⟩ :=
    host_overrides true noServer "" () ha rfl (sameBut_hostEnvironment "elsewhere:1")
  have hrun := hequal (iff_of_false (by decide) (by decide)) {}
  exact ⟨hrun, hlooks (hrun ▸ ⟨rfl, rfl, rfl⟩)⟩

/-- A blank name of a server keeps a run from its server, although that is named by the
arguments. -/
theorem blank_host_stops_run :
    let arguments := ["--host", "127.0.0.1:50051"]
    let r (e : Settings.Environment) := run true arguments e noServer {} "" ()
    Command.parse arguments = .run { host := some "127.0.0.1:50051" } ∧
      (hostEnvironment "").SameBut Settings.Environment.empty "GRPC_HOST" ∧
      (r (hostEnvironment "")).exit = 1 ∧ (r (hostEnvironment "")).stdout = [] ∧
      (r Settings.Environment.empty).exit = 0 ∧ (r Settings.Environment.empty).stdout ≠ [] := by
  intro arguments r
  have ha : Command.parse arguments = .run { host := some "127.0.0.1:50051" } := rfl
  have hblank : ¬ Settings.Usable (hostEnvironment "") := fun h => h.host (by decide)
  obtain ⟨hexit, hstdout, -⟩ := run_of_not_usable true noServer {} "" () ha hblank
  have hload : Settings.load Settings.Environment.empty = .ok {} := rfl
  have hwhole : Log.Filter.parse ({} : Settings).logging.filter ≠ .error .torn := nofun
  have htarget : Endpoint.ofTarget "127.0.0.1:50051" = .ok ⟨false, "127.0.0.1:50051".toList, []⟩ :=
    rfl
  obtain ⟨hexit', hstdout', -⟩ := run_of_accepted true noServer "" () ha hload hwhole htarget
  refine ⟨ha, sameBut_hostEnvironment "", hexit, hstdout, hexit', ?_⟩
  rw [hstdout']
  exact encode_header_append_ne_nil _ _

end Program

end CommandLine

end ScriptClient
