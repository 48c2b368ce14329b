import ScriptClient.Proofs.Timeout
import ScriptClient.Settings.Basic

set_option autoImplicit false

/-! # What an environment asks for

The settings that an environment asks for, variable by variable and apart from any loader
(`Follows`), and the first thing that is wrong with an environment that asks for none
(`FirstProblem`). Loading gives exactly the one or the other, and reads nothing but seven variables
(`settings_loaded`). -/

namespace ScriptClient.Settings

/-! ## What the variables say -/

namespace Environment

variable (env : Environment)

/-- The text of a variable in lowercase. -/
def lowered? (name : String) : Option String :=
  (env.get? name).map fun s => String.ofList (Text.lowercase s.toList)

/-- The server that is named, without the blanks around it. -/
def host : List Char :=
  Text.trim ((env.get? "GRPC_HOST").getD "localhost:50051").toList

/-- The text that stands for a timeout. -/
def timeoutText : String :=
  (env.get? "GRPC_CONNECT_TIMEOUT").getD "off"

/-- Whether the log format is one of the two, or left open. -/
def NamesFormat : Prop :=
  env.get? "LOG_FORMAT" = none ∨ env.get? "LOG_FORMAT" = some "" ∨
    env.lowered? "LOG_FORMAT" = some "text" ∨ env.lowered? "LOG_FORMAT" = some "json"

/-- The filter of the log: a level for the program, else the text of `RUST_LOG`, else a default. -/
inductive Filters : String → Prop where
  | level {level : String} (hlevel : env.lowered? "LOG_LEVEL" = some level)
    (hword : level ∈ ["trace", "debug", "info", "warn", "error"]) :
    Filters ("tokio_php_client=" ++ level)
  | other
    (hword : ∀ level ∈ ["trace", "debug", "info", "warn", "error"],
      env.lowered? "LOG_LEVEL" ≠ some level) :
    Filters ((env.get? "RUST_LOG").getD "tokio_php_client=warn")

/-- The variables that settings come from. -/
def settingNames : List String :=
  ["GRPC_HOST", "GRPC_RAW", "GRPC_CONNECT_TIMEOUT", "LOG_FORMAT", "LOG_LEVEL", "RUST_LOG",
    "SERVICE_NAME"]

end Environment

/-- Settings can be made of the environment. -/
structure Usable (env : Environment) : Prop where
  host : env.host ≠ []
  timeout : ∃ timeout, Timeout.read env.timeoutText = .ok timeout
  format : env.NamesFormat

/-- The settings are those that the environment asks for. -/
structure Follows (env : Environment) (s : Settings) : Prop where
  target : s.connection.target = String.ofList env.host
  forceRaw : s.connection.forceRaw = true ↔
    env.get? "GRPC_RAW" = some "1" ∨ env.lowered? "GRPC_RAW" = some "true"
  timeout : Timeout.read env.timeoutText = .ok s.connection.connectTimeout
  filter : env.Filters s.logging.filter
  format : s.logging.format = .json ↔ env.lowered? "LOG_FORMAT" = some "json"
  serviceName : s.logging.serviceName = (env.get? "SERVICE_NAME").getD "tokio_php_client"

/-- The problem is the first one of the environment. -/
inductive FirstProblem (env : Environment) : Problem → Prop where
  | host (hhost : env.host = []) : FirstProblem env (.invalid "GRPC_HOST" "must not be empty")
  | timeout {fault : Timeout.Fault} (hhost : env.host ≠ [])
    (htimeout : Timeout.read env.timeoutText = .error fault) :
    FirstProblem env (.parse "GRPC_CONNECT_TIMEOUT" env.timeoutText fault.message)
  | format {word : String} (hhost : env.host ≠ [])
    (htimeout : ∃ timeout, Timeout.read env.timeoutText = .ok timeout)
    (hformat : ¬ env.NamesFormat) (hword : env.lowered? "LOG_FORMAT" = some word) :
    FirstProblem env (.invalid "LOG_FORMAT" ("expected 'text' or 'json', got '" ++ word ++ "'"))

/-! ## Loading single settings -/

section

variable {env : Environment}

theorem lowered?_eq_some_iff {name word : String} :
    env.lowered? name = some word ↔
      ∃ value, env.get? name = some value ∧ Text.lowercase value.toList = word.toList := by
  rw [Environment.lowered?, Option.map_eq_some_iff]
  refine exists_congr fun value => and_congr_right fun _ => ?_
  rw [← String.toList_inj, String.toList_ofList]

theorem loadTarget_of_host (h : env.host ≠ []) :
    Connection.loadTarget env = .ok (String.ofList env.host) := by
  rw [Connection.loadTarget]
  split
  next hnil => exact absurd hnil h
  next => rfl

theorem loadTarget_of_no_host (h : env.host = []) :
    Connection.loadTarget env = .error (.invalid "GRPC_HOST" "must not be empty") := by
  rw [Connection.loadTarget]
  split
  next => rfl
  next hne => exact absurd h hne

theorem getFlag_eq_true_iff {name : String} :
    env.getFlag name false = true ↔
      env.get? name = some "1" ∨ env.lowered? name = some "true" := by
  rw [lowered?_eq_some_iff, Environment.getFlag]
  cases env.get? name with
  | none => simp
  | some value =>
    rw [Bool.or_eq_true, decide_eq_true_eq, decide_eq_true_eq]
    simp

theorem filters_loadFilter (env : Environment) : env.Filters (Logging.loadFilter env) := by
  rw [Logging.loadFilter]
  split
  next level h =>
    obtain ⟨hlevel, hword⟩ := Option.filter_eq_some_iff.mp h
    exact .level hlevel (List.contains_iff_mem.mp hword)
  next h =>
    refine .other fun level hword hlevel => ?_
    exact Option.filter_eq_none_iff.mp h level hlevel (List.contains_iff_mem.mpr hword)

theorem loadFormat_of_open (h : env.get? "LOG_FORMAT" = none ∨ env.get? "LOG_FORMAT" = some "") :
    Logging.loadFormat env = .ok .text := by
  have hopen : env.getNonempty? "LOG_FORMAT" = none := by
    rw [Environment.getNonempty?]
    rcases h with h | h
    · rw [h]
      rfl
    · rw [h]
      decide
  rw [Logging.loadFormat, hopen]

theorem loadFormat_of_word {word : String} (hne : env.get? "LOG_FORMAT" ≠ some "")
    (hword : env.lowered? "LOG_FORMAT" = some word) :
    Logging.loadFormat env =
      if word = "text" then .ok .text
      else if word = "json" then .ok .json
      else .error (.invalid "LOG_FORMAT" ("expected 'text' or 'json', got '" ++ word ++ "'")) := by
  obtain ⟨value, hvalue, rfl⟩ := Option.map_eq_some_iff.mp hword
  have hset : env.getNonempty? "LOG_FORMAT" = some value := by
    rw [Environment.getNonempty?, hvalue, Option.filter_eq_some_iff, decide_eq_true_eq]
    exact ⟨rfl, fun hempty => hne (hempty ▸ hvalue)⟩
  rw [Logging.loadFormat, hset]

/-- A format that is named, or left open, is loaded. -/
theorem loadFormat_of_names (h : env.NamesFormat) :
    ∃ format, Logging.loadFormat env = .ok format ∧
      (format = .json ↔ env.lowered? "LOG_FORMAT" = some "json") := by
  by_cases hopen : env.get? "LOG_FORMAT" = none ∨ env.get? "LOG_FORMAT" = some ""
  · refine ⟨.text, loadFormat_of_open hopen, iff_of_false nofun fun hjson => ?_⟩
    obtain ⟨value, hvalue, hlower⟩ := lowered?_eq_some_iff.mp hjson
    rcases hopen with hopen | hopen
    · cases hopen.symm.trans hvalue
    · cases hopen.symm.trans hvalue
      cases hlower
  · rw [not_or] at hopen
    rcases h with h | h | h | h
    · exact absurd h hopen.1
    · exact absurd h hopen.2
    · exact ⟨.text, (loadFormat_of_word hopen.2 h).trans (if_pos rfl), by simp [h]⟩
    · exact ⟨.json, (loadFormat_of_word hopen.2 h).trans rfl, by simp [h]⟩

/-- Any other word is reported as it is in lowercase. -/
theorem loadFormat_of_not_names (h : ¬ env.NamesFormat) :
    ∃ word, env.lowered? "LOG_FORMAT" = some word ∧
      Logging.loadFormat env =
        .error (.invalid "LOG_FORMAT" ("expected 'text' or 'json', got '" ++ word ++ "'")) := by
  simp only [Environment.NamesFormat, not_or] at h
  obtain ⟨hset, hne, htext, hjson⟩ := h
  obtain ⟨value, hvalue⟩ := Option.ne_none_iff_exists'.mp hset
  have hword : env.lowered? "LOG_FORMAT" = some (String.ofList (Text.lowercase value.toList)) :=
    congrArg (Option.map _) hvalue
  refine ⟨_, hword, ?_⟩
  rw [loadFormat_of_word hne hword, if_neg, if_neg]
  · rintro heq
    exact hjson (heq ▸ hword)
  · rintro heq
    exact htext (heq ▸ hword)

end

/-! ## Loading all settings -/

section

variable {env : Environment}

theorem load_of_usable (h : Usable env) : ∃ s, load env = .ok s ∧ Follows env s := by
  obtain ⟨hhost, ⟨timeout, htimeout⟩, hformat⟩ := h
  obtain ⟨format, hload, hjson⟩ := loadFormat_of_names hformat
  have hconnection : Connection.load env =
      .ok ⟨String.ofList env.host, env.getFlag "GRPC_RAW" false, timeout⟩ := by
    simp only [Connection.load, loadTarget_of_host hhost,
      Connection.loadTimeout_eq_ok_iff.mpr htimeout]
  have hlogging : Logging.load env =
      .ok ⟨Logging.loadFilter env, format, env.getD "SERVICE_NAME" defaultServiceName⟩ := by
    simp only [Logging.load, hload]
  refine ⟨⟨_, _⟩, by simp only [load, hconnection, hlogging]; rfl, ?_⟩
  exact {
    target := rfl
    forceRaw := getFlag_eq_true_iff
    timeout := htimeout
    filter := filters_loadFilter env
    format := hjson
    serviceName := rfl }

theorem load_of_firstProblem {p : Problem} (h : FirstProblem env p) : load env = .error p := by
  cases h with
  | host hhost => simp only [load, Connection.load, loadTarget_of_no_host hhost]
  | @timeout fault hhost htimeout =>
    have hload : Connection.loadTimeout env "GRPC_CONNECT_TIMEOUT" "off" =
        .error (.parse "GRPC_CONNECT_TIMEOUT" env.timeoutText fault.message) :=
      Connection.loadTimeout_eq_error_iff.mpr ⟨fault, htimeout, rfl⟩
    simp only [load, Connection.load, loadTarget_of_host hhost, hload]
  | format hhost htimeout hformat hword =>
    obtain ⟨timeout, htimeout⟩ := htimeout
    obtain ⟨word, hword', hload⟩ := loadFormat_of_not_names hformat
    cases hword.symm.trans hword'
    simp only [load, Connection.load, loadTarget_of_host hhost,
      Connection.loadTimeout_eq_ok_iff.mpr htimeout, Logging.load, hload]

/-- An environment is usable or has a first problem. -/
theorem usable_or_firstProblem (env : Environment) : Usable env ∨ ∃ p, FirstProblem env p := by
  by_cases hhost : env.host = []
  · exact .inr ⟨_, .host hhost⟩
  cases htimeout : Timeout.read env.timeoutText with
  | error fault => exact .inr ⟨_, .timeout hhost htimeout⟩
  | ok timeout =>
    by_cases hformat : env.NamesFormat
    · exact .inl ⟨hhost, ⟨timeout, htimeout⟩, hformat⟩
    · obtain ⟨word, hword, -⟩ := loadFormat_of_not_names hformat
      exact .inr ⟨_, .format hhost ⟨timeout, htimeout⟩ hformat hword⟩

theorem Environment.Filters.unique {filter filter' : String} (h : env.Filters filter)
    (h' : env.Filters filter') : filter = filter' := by
  cases h with
  | level hlevel hword =>
    cases h' with
    | level hlevel' hword' =>
      cases hlevel.symm.trans hlevel'
      rfl
    | other hword' => exact absurd hlevel (hword' _ hword)
  | other hword =>
    cases h' with
    | level hlevel' hword' => exact absurd hlevel' (hword _ hword')
    | other hword' => rfl

/-- An environment asks for one kind of settings only. -/
theorem Follows.unique {s s' : Settings} (h : Follows env s) (h' : Follows env s') : s = s' := by
  obtain ⟨⟨target, forceRaw, timeout⟩, ⟨filter, format, serviceName⟩⟩ := s
  obtain ⟨⟨target', forceRaw', timeout'⟩, ⟨filter', format', serviceName'⟩⟩ := s'
  have htarget : target = target' := h.target.trans h'.target.symm
  have hraw : forceRaw = forceRaw' := Bool.eq_iff_iff.mpr (h.forceRaw.trans h'.forceRaw.symm)
  have htimeout : timeout = timeout' := Except.ok.inj (h.timeout.symm.trans h'.timeout)
  have hfilter : filter = filter' := h.filter.unique h'.filter
  have hjson : format = .json ↔ format' = .json := h.format.trans h'.format.symm
  have hformat : format = format' := by
    cases format <;> cases format' <;> simp_all
  have hname : serviceName = serviceName' := h.serviceName.trans h'.serviceName.symm
  rw [htarget, hraw, htimeout, hfilter, hformat, hname]

theorem load_eq_ok_iff {s : Settings} : load env = .ok s ↔ Usable env ∧ Follows env s := by
  constructor
  · intro h
    rcases usable_or_firstProblem env with husable | ⟨p, hp⟩
    · obtain ⟨s', hs', hfollows⟩ := load_of_usable husable
      cases hs'.symm.trans h
      exact ⟨husable, hfollows⟩
    · cases (load_of_firstProblem hp).symm.trans h
  · rintro ⟨husable, hfollows⟩
    obtain ⟨s', hs', hfollows'⟩ := load_of_usable husable
    rw [hs', hfollows.unique hfollows']

theorem load_eq_error_iff {p : Problem} : load env = .error p ↔ FirstProblem env p := by
  refine ⟨fun h => ?_, load_of_firstProblem⟩
  rcases usable_or_firstProblem env with husable | ⟨p', hp'⟩
  · obtain ⟨s, hs, -⟩ := load_of_usable husable
    cases hs.symm.trans h
  · cases (load_of_firstProblem hp').symm.trans h
    exact hp'

end

/-- Loading reads nothing of an environment but the texts of seven variables. -/
theorem load_congr {env env' : Environment}
    (h : ∀ name ∈ Environment.settingNames, env.get? name = env'.get? name) :
    load env = load env' := by
  simp only [Environment.settingNames, List.forall_mem_cons] at h
  obtain ⟨hhost, hraw, htimeout, hformat, hlevel, hfilter, hname, -⟩ := h
  simp only [load, Connection.load, Connection.loadTarget, Connection.loadTimeout,
    Environment.getFlag, Logging.load, Logging.loadFormat, Logging.loadFilter, Logging.levelWord?,
    Environment.getNonempty?, Environment.getD, hhost, hraw, htimeout, hformat, hlevel, hfilter,
    hname]

/-- **Settings.** Loading an environment gives settings exactly if a server is named, the text for
the timeout is one, and the format of the log is one of the two or left open; they are then the
settings that the variables ask for, each in its own way. Otherwise it gives the first problem in
this order. Environments with the same texts in seven variables are loaded alike. -/
theorem settings_loaded (env : Environment) :
    ((∃ s, load env = .ok s) ↔ Usable env) ∧
      (∀ s, load env = .ok s ↔ Usable env ∧ Follows env s) ∧
      (∀ p, load env = .error p ↔ FirstProblem env p) ∧
      ∀ env' : Environment,
        (∀ name ∈ Environment.settingNames, env.get? name = env'.get? name) →
          load env = load env' := by
  refine ⟨⟨?_, ?_⟩, fun _ => load_eq_ok_iff, fun _ => load_eq_error_iff, fun _ => load_congr⟩
  · rintro ⟨s, hs⟩
    exact (load_eq_ok_iff.mp hs).1
  · intro husable
    obtain ⟨s, hs, -⟩ := load_of_usable husable
    exact ⟨s, hs⟩

end ScriptClient.Settings
