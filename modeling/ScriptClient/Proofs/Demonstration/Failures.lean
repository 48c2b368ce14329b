import ScriptClient.Proofs.Demonstration.Whole

set_option autoImplicit false

/-! # What failed calls leave behind

A failed call leaves two notes in the steps of a run: a warning in the log, and right after it an
error line in the transcript (`FailedCall.notes`). Nothing else that a run logs is a warning, and
nothing else that it writes begins like an error line, so the notes of a run are those of its failed
calls, in the order of the calls (`notes_fourCalls`, `notes_probe`). -/

namespace ScriptClient

/-! ## Notes -/

namespace Transcript

/-- How error lines begin: the one of the probe, and those under a title. -/
def errorFronts : List String := ["Error: ", indent ++ "Error: "]

/-- Whether a text is written as an error line. -/
def isErrorLine (text : String) : Bool :=
  errorFronts.any fun error => error.toList.isPrefixOf text.toList

/-- Whether texts with this front begin in another way than error lines. -/
def differs (front : String) : Bool :=
  errorFronts.all fun error =>
    !error.toList.isPrefixOf front.toList && !front.toList.isPrefixOf error.toList

theorem isErrorLine_of_mem {error text : String} (hmem : error ∈ errorFronts)
    (h : error.toList <+: text.toList) : isErrorLine text = true :=
  List.any_eq_true.mpr ⟨error, hmem, List.isPrefixOf_iff_prefix.mpr h⟩

theorem isErrorLine_eq_false {front text : String} (h : differs front = true)
    (hfront : front.toList <+: text.toList) : isErrorLine text = false := by
  refine Bool.eq_false_iff.mpr fun hline => ?_
  obtain ⟨error, hmem, hprefix⟩ := List.any_eq_true.mp hline
  have hdiffers := List.all_eq_true.mp h error hmem
  rw [Bool.and_eq_true, Bool.not_eq_true', Bool.not_eq_true'] at hdiffers
  have herror := List.isPrefixOf_iff_prefix.mp hprefix
  -- two fronts of one text are comparable
  rcases List.prefix_or_prefix_of_prefix herror hfront with hle | hle
  · exact Bool.false_ne_true (hdiffers.1.symm.trans (List.isPrefixOf_iff_prefix.mpr hle))
  · exact Bool.false_ne_true (hdiffers.2.symm.trans (List.isPrefixOf_iff_prefix.mpr hle))

theorem prefix_append (front rest : String) : front.toList <+: (front ++ rest).toList := by
  rw [String.toList_append]
  exact List.prefix_append _ _

theorem isErrorLine_line {front : String} (h : differs front = true) (rest : String) :
    isErrorLine (line (front ++ rest)) = false := by
  refine isErrorLine_eq_false h ?_
  rw [line, String.append_assoc]
  exact prefix_append _ _

theorem isErrorLine_field {front name : String} (h : differs (indent ++ front) = true)
    (hname : front.toList <+: name.toList) (value : String) :
    isErrorLine (field name value) = false := by
  refine isErrorLine_eq_false h ?_
  obtain ⟨rest, hrest⟩ := hname
  simp only [field, line, String.toList_append, ← hrest, List.append_assoc]
  exact List.prefix_append_right_inj _ |>.mpr (List.prefix_append _ _)

end Transcript

/-- A step of a run that tells of a failure. -/
inductive Note where
  /-- A warning in the log. -/
  | warning (event : Log.Event)
  /-- An error line in the transcript. -/
  | error (line : String)

namespace Step

variable {Ask : Type}

/-- The note that a step is, if it is one. -/
def note? : Step Ask → Option Note
  | .wrote text => if Transcript.isErrorLine text then some (.error text) else none
  | .logged e => if e.level = .warn then some (.warning e) else none
  | .asked _ => none

/-- The notes among steps, in order. -/
def notes (steps : List (Step Ask)) : List Note :=
  steps.filterMap note?

@[simp]
theorem notes_nil : notes ([] : List (Step Ask)) = [] := rfl

@[simp]
theorem notes_append (l r : List (Step Ask)) : notes (l ++ r) = notes l ++ notes r :=
  List.filterMap_append

@[simp]
theorem notes_asked (q : Ask) (rest : List (Step Ask)) :
    notes (.asked q :: rest) = notes rest := rfl

theorem notes_wrote {text : String} (h : Transcript.isErrorLine text = false)
    (rest : List (Step Ask)) : notes (.wrote text :: rest) = notes rest :=
  List.filterMap_cons_none (by rw [note?, h]; rfl)

theorem notes_logged {e : Log.Event} (h : e.level ≠ .warn) (rest : List (Step Ask)) :
    notes (.logged e :: rest) = notes rest :=
  List.filterMap_cons_none (if_neg h)

end Step

namespace Session

variable {Ask : Type} {Answer : Ask → Type} {α β : Type}

/-- The session leaves these notes, whatever it is answered. -/
def Leaves (s : Session Ask Answer α) (notes : List Note) : Prop :=
  ∀ (State : Type) (world : World Ask Answer State) (state : State),
    Step.notes (s.story world state) = notes

theorem leaves_done (a : α) : (done a : Session Ask Answer α).Leaves [] :=
  fun _ _ _ => rfl

theorem leaves_put {text : String} (h : Transcript.isErrorLine text = false) :
    (put text : Session Ask Answer Unit).Leaves [] :=
  fun _ _ _ => Step.notes_wrote h []

theorem leaves_tell {e : Log.Event} (h : e.level ≠ .warn) :
    (tell e : Session Ask Answer Unit).Leaves [] :=
  fun _ _ _ => Step.notes_logged h []

theorem Leaves.bind {s : Session Ask Answer α} {f : α → Session Ask Answer β}
    {notes notes' : List Note} (hs : s.Leaves notes) (hf : ∀ a, (f a).Leaves notes') :
    (s.bind f).Leaves (notes ++ notes') := by
  intro State world state
  rw [story_bind, Step.notes_append, hs, hf]

theorem leaves_tellAll {events : List Log.Event} (h : ∀ e ∈ events, e.level ≠ .warn) :
    (tellAll events : Session Ask Answer Unit).Leaves [] := by
  induction events with
  | nil => exact leaves_done ()
  | cons e events ih =>
    exact (leaves_tell (h e List.mem_cons_self)).bind fun _ =>
      ih fun e' he => h e' (List.mem_cons_of_mem e he)

/-- If the sessions that answer leave no notes, the notes are those of the session. -/
theorem notes_story_lower {Ask' : Type} {Answer' : Ask' → Type} {State : Type}
    {handle : (q : Ask) → Session Ask' Answer' (Answer q)} (h : ∀ q, (handle q).Leaves [])
    (world : World Ask' Answer' State) (s : Session Ask Answer α) (state : State) :
    Step.notes ((s.lower handle).story world state) =
      Step.notes (s.story (through handle world) state) := by
  induction s generalizing state with
  | done a => rfl
  | write text closing next ih =>
    show Step.notes ([.wrote text] ++ _) = Step.notes ([.wrote text] ++ _)
    rw [Step.notes_append, Step.notes_append, ih]
    rfl
  | flush closing next ih => exact ih state
  | log event next ih =>
    show Step.notes ([.logged event] ++ _) = Step.notes ([.logged event] ++ _)
    rw [Step.notes_append, Step.notes_append, ih]
    rfl
  | ask q next ih =>
    rw [lower, story_bind, Step.notes_append, h, ih]
    rfl

end Session

namespace Demonstration

open Call Rpc

/-! ## Failed calls -/

/-- A call of a demonstration that failed. -/
inductive FailedCall where
  /-- A typed call with a name. -/
  | typed (call : String) (f : Failure)
  /-- A raw call of a method. -/
  | raw (method : Method) (f : Failure)

namespace FailedCall

/-- Why the call failed. -/
def failure : FailedCall → Failure
  | typed _ f => f
  | raw _ f => f

/-- The field that names the call in its warning. -/
def nameField : FailedCall → String × Log.Value
  | typed call _ => ("call", .text call)
  | raw method _ => ("method", .shown method.path)

/-- The warning about the call. -/
def warning : FailedCall → Log.Event
  | typed call f => failureEvent call f
  | raw method f => probeFailureEvent method f

/-- The error line of the call. -/
def line : FailedCall → String
  | typed _ f => Transcript.failure f
  | raw _ f => Transcript.line ("Error: " ++ f.display)

/-- What the call leaves behind. -/
def notes (c : FailedCall) : List Note := [.warning c.warning, .error c.line]

theorem level_warning (c : FailedCall) : c.warning.level = .warn := by cases c <;> rfl

/-- The warning names the call and the code. -/
theorem fields_warning (c : FailedCall) :
    c.nameField ∈ c.warning.fields ∧ ("code", .shown c.failure.code.name) ∈ c.warning.fields := by
  cases c with
  | typed call f => exact ⟨by simp [nameField, warning, failureEvent, Log.Event.say],
      by simp [failure, warning, failureEvent, Log.Event.say]⟩
  | raw method f => exact ⟨by simp [nameField, warning, probeFailureEvent, Log.Event.say],
      by simp [failure, warning, probeFailureEvent, Log.Event.say]⟩

theorem isErrorLine_line (c : FailedCall) : Transcript.isErrorLine c.line = true := by
  cases c with
  | typed call f =>
    have hline : line (.typed call f) = Transcript.indent ++ "Error: " ++ (f.display ++ "\n") := by
      simp only [line, Transcript.failure, Transcript.field, Transcript.line, String.append_assoc]
      rfl
    exact Transcript.isErrorLine_of_mem (by decide) (hline ▸ Transcript.prefix_append _ _)
  | raw method f =>
    have hline : line (.raw method f) = "Error: " ++ (f.display ++ "\n") := by
      rw [line, Transcript.line, String.append_assoc]
    exact Transcript.isErrorLine_of_mem (by decide) (hline ▸ Transcript.prefix_append _ _)

/-- A warning and the error line after it are what the call leaves behind. -/
theorem notes_steps {Ask : Type} (c : FailedCall) :
    Step.notes ([.logged c.warning, .wrote c.line] : List (Step Ask)) = c.notes := by
  have hwarning : Step.note? (.logged c.warning : Step Ask) = some (.warning c.warning) :=
    if_pos c.level_warning
  have hline : Step.note? (.wrote c.line : Step Ask) = some (.error c.line) :=
    if_pos c.isErrorLine_line
  rw [Step.notes, List.filterMap_cons_some hwarning, List.filterMap_cons_some hline]
  rfl

/-- The error line ends with the code. -/
theorem line_eq (c : FailedCall) :
    ∃ front, c.line = front ++ "(code: " ++ c.failure.code.name ++ ")\n" := by
  cases c with
  | typed call f =>
    refine ⟨Transcript.indent ++ "Error: " ++ f.message ++ " ", ?_⟩
    simp only [line, failure, Transcript.failure, Transcript.field, Transcript.line,
      Failure.display, String.append_assoc]
    rfl
  | raw method f =>
    refine ⟨"Error: " ++ f.message ++ " ", ?_⟩
    simp only [line, failure, Transcript.line, Failure.display, String.append_assoc]
    rfl

end FailedCall

/-- What a list of failed calls leaves behind. -/
def notesOf (failures : List FailedCall) : List Note :=
  failures.flatMap FailedCall.notes

theorem notesOf_append (l r : List FailedCall) : notesOf (l ++ r) = notesOf l ++ notesOf r :=
  List.flatMap_append

/-- The call with this name, if its outcome is a failure. -/
def failedCall {α : Type} (call : String) : Except Failure α → List FailedCall
  | .error f => [.typed call f]
  | .ok _ => []

/-- The call of a stream, if it failed or an error stops the stream. -/
def failedStream : Except Failure (List (Except Failure StreamChunk)) → List FailedCall
  | .error f => [.typed "ExecuteStream" f]
  | .ok items => (streamError? items).toList.map (.typed "ExecuteStream")

/-- The typed calls that failed, in the order of the calls. -/
def Outcomes.failures (o : Outcomes) : List FailedCall :=
  failedCall "Check" o.health ++ failedCall "Execute" o.page ++ failedCall "Execute" o.form ++
    failedStream o.stream

/-- The probe, if it failed. -/
def failedProbe : Except Failure (List UInt8) → List FailedCall
  | .error f => [.raw .check f]
  | .ok _ => []

/-! ## Sessions that show an outcome -/

theorem leaves_report (call : String) (f : Failure) :
    (report call f).Leaves (FailedCall.typed call f).notes :=
  fun _ _ _ => (FailedCall.typed call f).notes_steps

theorem leaves_field {front name : String}
    (h : Transcript.differs (Transcript.indent ++ front) = true)
    (hname : front.toList <+: name.toList) (value : String) :
    (Session.put (Transcript.field name value) : Dialogue Unit).Leaves [] :=
  Session.leaves_put (Transcript.isErrorLine_field h hname value)

theorem leaves_showHealth (o : Except Failure HealthCheckResponse) :
    (showHealth o).Leaves (notesOf (failedCall "Check" o)) := by
  cases o with
  | error f => exact leaves_report "Check" f
  | ok response =>
    exact (leaves_field (by decide) List.prefix_rfl _).bind fun _ => Session.leaves_done true

theorem leaves_showPage (o : Except Failure ExecuteResponse) :
    (showPage o).Leaves (notesOf (failedCall "Execute" o)) := by
  cases o with
  | error f => exact leaves_report "Execute" f
  | ok response =>
    refine (leaves_field (by decide) List.prefix_rfl _).bind fun _ =>
      (leaves_field (by decide) List.prefix_rfl _).bind fun _ =>
      (leaves_field (by decide) List.prefix_rfl _).bind fun _ => ?_
    cases response.metadata with
    | none => exact Session.leaves_done true
    | some metadata =>
      exact (leaves_field (by decide) List.prefix_rfl _).bind fun _ =>
        (leaves_field (by decide) List.prefix_rfl _).bind fun _ => Session.leaves_done true

theorem leaves_showForm (o : Except Failure ExecuteResponse) :
    (showForm o).Leaves (notesOf (failedCall "Execute" o)) := by
  cases o with
  | error f => exact leaves_report "Execute" f
  | ok response =>
    exact (leaves_field (by decide) List.prefix_rfl _).bind fun _ =>
      (leaves_field (by decide) List.prefix_rfl _).bind fun _ => Session.leaves_done true

/-- Every error among the items of a stream is a failure of its call. -/
theorem leaves_showItems (items : List (Except Failure StreamChunk)) :
    (showItems items).Leaves (notesOf (items.flatMap (failedCall "ExecuteStream"))) := by
  induction items with
  | nil => exact Session.leaves_done true
  | cons item rest ih =>
    rw [List.flatMap_cons, notesOf_append]
    cases item with
    | ok chunk =>
      exact (leaves_field (by decide) (Transcript.prefix_append "Chunk " _) _).bind fun _ => ih
    | error f =>
      have hrest : (showItems rest >>= fun _ => (.done false : Dialogue Bool)).Leaves
          (notesOf (rest.flatMap (failedCall "ExecuteStream")) ++ []) :=
        ih.bind fun _ => Session.leaves_done false
      rw [List.append_nil] at hrest
      exact (leaves_report "ExecuteStream" f).bind fun _ => hrest

theorem flatMap_deliveredItems (items : List (Except Failure StreamChunk)) :
    (deliveredItems items).flatMap (failedCall "ExecuteStream") = failedStream (.ok items) := by
  have hchunks : ∀ chunks : List StreamChunk,
      (chunks.map .ok).flatMap (failedCall "ExecuteStream") = [] := by
    intro chunks
    rw [List.flatMap_map]
    exact List.flatMap_eq_nil_iff.mpr fun _ _ => rfl
  rw [deliveredItems_eq, List.flatMap_append, hchunks, List.nil_append, failedStream]
  cases streamError? items <;> rfl

theorem level_finish {σ : Type} (b : Bounded σ) : ∀ e ∈ b.finish.2.1, e.level ≠ .warn := by
  rw [Bounded.finish]
  simp only
  split
  · exact fun _ he => absurd he List.not_mem_nil
  all_goals
    rw [List.forall_mem_singleton]
    exact Log.Level.noConfusion

theorem leaves_showStream (o : Except Failure (List (Except Failure StreamChunk))) :
    (showStream o).Leaves (notesOf (failedStream o)) := by
  cases o with
  | error f => exact leaves_report "ExecuteStream" f
  | ok items =>
    rw [showStream, Bounded.collectItems_eq, ← flatMap_deliveredItems]
    have hitems := (leaves_showItems (deliveredItems items)).bind fun ok =>
      (Session.leaves_tellAll (level_finish (Bounded.reference StreamChunk.isFinal
        Bounded.defaultLimit Bounded.nextItem items (items.length + 1)))).bind fun _ =>
          Session.leaves_done ok
    rw [List.append_nil, List.append_nil] at hitems
    exact hitems

/-! ## The calls in order -/

/-- The call under a title leaves what its outcome leaves. -/
theorem notes_demonstrate (index : Nat) (title : String)
    (htitle : Transcript.isErrorLine (Transcript.title index title) = false) (q : Api)
    {showOutcome : q.Outcome → Dialogue Bool} {failures : q.Outcome → List FailedCall}
    (h : ∀ o, (showOutcome o).Leaves (notesOf (failures o))) {State : Type}
    (world : World Api Api.Outcome State) (state : State) :
    Step.notes ((demonstrate index title q showOutcome).story world state) =
      notesOf (failures (world q state).1) := by
  have hblank : Transcript.isErrorLine Transcript.blank = false := by decide
  let a := (world q state).1
  let rest : Dialogue Bool :=
    (showOutcome a).bind fun ok => (Session.put Transcript.blank).bind fun _ => .done ok
  have hrest : rest.Leaves (notesOf (failures a) ++ ([] ++ [])) :=
    (h a).bind fun ok => (Session.leaves_put hblank).bind fun _ => Session.leaves_done ok
  show Step.notes (.wrote _ :: .asked q :: rest.story world _) = _
  rw [Step.notes_wrote htitle, Step.notes_asked, hrest, List.append_nil, List.append_nil]

/-- **What the typed calls leave behind** are the notes of those that failed, in order. -/
theorem notes_fourCalls {State : Type} (world : World Api Api.Outcome State) (state : State) :
    Step.notes (fourCalls.story world state) =
      notesOf (Outcomes.ofWorld world state).failures := by
  have hopening : Transcript.isErrorLine (Transcript.line "Using generated proto bindings") =
      false := by decide
  have hblank : Transcript.isErrorLine Transcript.blank = false := by decide
  have o₁ := (demonstrate_section 1 "Health Check" (.check {}) shows_health world state).1
  have n₁ := notes_demonstrate 1 "Health Check" (by decide) (.check {}) leaves_showHealth world
    state
  have o₂ := (demonstrate_section 2 "Execute Script" (.execute getRequest) shows_page world
    (world (.check {}) state).2).1
  have n₂ := notes_demonstrate 2 "Execute Script" (by decide) (.execute getRequest)
    leaves_showPage world (world (.check {}) state).2
  have o₃ := (demonstrate_section 3 "Execute POST Request" (.execute postRequest) shows_form world
    (world (.execute getRequest) (world (.check {}) state).2).2).1
  have n₃ := notes_demonstrate 3 "Execute POST Request" (by decide) (.execute postRequest)
    leaves_showForm world (world (.execute getRequest) (world (.check {}) state).2).2
  have n₄ := notes_demonstrate 4 "Streaming Response" (by decide) (.executeStream streamRequest)
    leaves_showStream world
    (world (.execute postRequest) (world (.execute getRequest) (world (.check {}) state).2).2).2
  simp only [fourCalls, Session.bind_eq, Session.story_bind, Session.outcome_put,
    Session.story_put, Session.pure_eq_done, Session.story_done, Step.notes_append,
    Step.notes_wrote hopening, Step.notes_wrote hblank, Step.notes_nil,
    List.nil_append, List.append_nil, o₁, o₂, o₃, n₁, n₂, n₃, n₄]
  simp only [Outcomes.failures, notesOf_append, List.append_assoc]
  rfl

/-! ## Raw calls and the calls over a channel -/

theorem leaves_call (client : Client) (q : Api) : (client.call q).Leaves [] := by
  intro State world state
  cases q with
  | check message => rfl
  | execute message => rfl
  | executeStream message =>
    simp only [Client.call, Session.bind_eq, Session.story_bind, Step.notes_append]
    -- the last step looks at the reply, and does nothing in either case
    split <;> rfl

/-- **What the probe leaves behind** are its notes, if it fails. -/
theorem notes_probe {State : Type} (bindings : Bool) (world : World Ask Ask.Answer State)
    (state : State) :
    Step.notes ((probe bindings).story world state) =
      notesOf (failedProbe (world (.unary probeRequest) state).1) := by
  have hreason : Transcript.isErrorLine (probeReason bindings) = false := by
    cases bindings <;> decide
  have hblank : Transcript.isErrorLine Transcript.blank = false := by decide
  have hattempt : Transcript.isErrorLine
      (Transcript.line "Attempting raw gRPC health check...") = false := by decide
  have hevent : (Raw.event .check []).level ≠ .warn := nofun
  rw [probe, unary_check]
  simp only [Session.bind_eq, Session.story_bind, Session.story_put, Session.outcome_put,
    Session.outcome, Session.story, Session.request, Step.notes_append, Step.notes_wrote hreason,
    Step.notes_wrote hblank, Step.notes_wrote hattempt, Step.notes_logged hevent, Step.notes_asked,
    Step.notes_nil, List.nil_append]
  cases (world (.unary probeRequest) state).1 with
  | ok response => exact Step.notes_wrote (Transcript.isErrorLine_line (by decide) _) []
  | error f => exact (FailedCall.raw .check f).notes_steps

/-! ## Counting failed calls -/

theorem length_failedCall {α : Type} (call : String) (o : Except Failure α) :
    (failedCall call o).length = [o.isOk].count false := by
  cases o <;> rfl

theorem length_failedStream (o : Except Failure (List (Except Failure StreamChunk))) :
    (failedStream o).length = [streamOk o].count false := by
  cases o with
  | error f => rfl
  | ok items =>
    have herror := isSome_streamError?_iff items
    rw [streamOk_ok, failedStream, List.length_map]
    cases hstop : streamError? items with
    | none =>
      have hfine : ¬ streamStop? items = some .failed := by
        rw [← herror, hstop]
        exact Bool.false_ne_true
      simp [hfine]
    | some f =>
      have hfailed : streamStop? items = some .failed :=
        herror.mp (Option.isSome_of_eq_some hstop)
      simp [hfailed]

/-- As many typed calls failed as are not counted as completed. -/
theorem length_failures (o : Outcomes) : o.failures.length = o.completed.count false := by
  have hcompleted : o.completed =
      [o.health.isOk] ++ [o.page.isOk] ++ [o.form.isOk] ++ [streamOk o.stream] := rfl
  rw [hcompleted, Outcomes.failures]
  simp only [List.length_append, List.count_append, length_failedCall, length_failedStream]

/-- The tally of the typed calls counts those that failed. -/
theorem failed_fourCalls {State : Type} (world : World Api Api.Outcome State) (state : State) :
    (fourCalls.outcome world state).1.failed = (Outcomes.ofWorld world state).failures.length := by
  rw [(fourCalls_eq world state).1, failed_foldl_record, length_failures]
  exact Nat.zero_add _

/-- The tally of the probe counts it if it failed. -/
theorem failed_probe {State : Type} (bindings : Bool) (world : World Ask Ask.Answer State)
    (state : State) :
    ((probe bindings).outcome world state).1.failed =
      (failedProbe (world (.unary probeRequest) state).1).length := by
  rw [probe, unary_check]
  simp only [Session.bind_eq, Session.outcome_bind, Session.outcome_put, Session.outcome,
    Session.request]
  cases (world (.unary probeRequest) state).1 with
  | ok response => rfl
  | error f => rfl

/-! ## Calls in order -/

/-- The names of the typed calls, in order. -/
def callNames : List String := ["Check", "Execute", "Execute", "ExecuteStream"]

/-- The field that names a typed call in its warning. -/
def callField (name : String) : String × Log.Value := ("call", .text name)

theorem sublist_failedCall {α : Type} (call : String) (o : Except Failure α) :
    ((failedCall call o).map FailedCall.nameField).Sublist [callField call] := by
  cases o with
  | error f => exact List.Sublist.refl _
  | ok a => exact List.nil_sublist _

theorem sublist_failedStream (o : Except Failure (List (Except Failure StreamChunk))) :
    ((failedStream o).map FailedCall.nameField).Sublist [callField "ExecuteStream"] := by
  cases o with
  | error f => exact List.Sublist.refl _
  | ok items =>
    rw [failedStream]
    cases streamError? items with
    | none => exact List.nil_sublist _
    | some f => exact List.Sublist.refl _

/-- The failed calls are named in the order of the calls, each at most once. -/
theorem sublist_failures (o : Outcomes) :
    (o.failures.map FailedCall.nameField).Sublist (callNames.map callField) := by
  have hnames : callNames.map callField = [callField "Check"] ++ [callField "Execute"] ++
      [callField "Execute"] ++ [callField "ExecuteStream"] := rfl
  rw [hnames, Outcomes.failures]
  simp only [List.map_append]
  exact (((sublist_failedCall _ _).append (sublist_failedCall _ _)).append
    (sublist_failedCall _ _)).append (sublist_failedStream _)

end Demonstration

end ScriptClient
