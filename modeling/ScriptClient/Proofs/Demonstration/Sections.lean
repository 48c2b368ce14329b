import ScriptClient.Demonstration.Calls
import ScriptClient.Proofs.Delivery
import ScriptClient.Proofs.Session.Story

set_option autoImplicit false

/-! # The sections of the demonstration

The four typed calls write an opening and then one section for each call: a title, what the outcome
of the call shows, and an empty line. What stands in a section is a function of that one outcome
(`healthText`, `pageText`, `formText`, `streamText`). A session that shows an outcome asks nothing
and flushes nothing (`Shows`), so the calls are made in the same order with the same requests
whatever their outcomes are, and a sink without a limit takes the whole transcript
(`run_fourCalls_eq`). -/

namespace ScriptClient.Demonstration

open Call Rpc

/-! ## What stands under the titles -/

/-- What the outcome of the probe shows. -/
def healthText : Except Failure HealthCheckResponse → String
  | .error f => Transcript.failure f
  | .ok response => Transcript.field "Status" (statusLabel response.status)

/-- What a complete response shows of itself without its body. -/
def pageText : Except Failure ExecuteResponse → String
  | .error f => Transcript.failure f
  | .ok response =>
    Transcript.field "Status Code" (toString response.statusCode.toInt) ++
      Transcript.field "Headers" (showHeaders response.headers) ++
      Transcript.field "Body length" (toString response.body.length ++ " bytes") ++
      match response.metadata with
      | none => ""
      | some metadata =>
        Transcript.field "Request ID" metadata.requestId ++
          Transcript.field "Execution time" (toString metadata.executionTimeUs.toInt ++ "µs")

/-- What a complete response shows with the start of its body. -/
def formText : Except Failure ExecuteResponse → String
  | .error f => Transcript.failure f
  | .ok response =>
    Transcript.field "Status Code" (toString response.statusCode.toInt) ++
      Transcript.field "Body"
        (String.ofList (Text.Utf8.preview previewLength response.body) ++ "...")

/-- The line of one chunk. -/
def chunkLine (chunk : StreamChunk) : String :=
  Transcript.field ("Chunk " ++ toString chunk.sequence.toNat)
    (toString chunk.data.length ++ " bytes, final=" ++ toString chunk.isFinal)

/-- The line of one item of a stream. -/
def itemText : Except Failure StreamChunk → String
  | .ok chunk => chunkLine chunk
  | .error f => Transcript.failure f

/-- The items that are delivered of a stream. -/
def deliveredItems (items : List (Except Failure StreamChunk)) :
    List (Except Failure StreamChunk) :=
  Bounded.delivered StreamChunk.isFinal Bounded.defaultLimit items

/-- Why the stream of a list of items stops. -/
def streamStop? (items : List (Except Failure StreamChunk)) : Option StreamEnd :=
  Bounded.listStop? StreamChunk.isFinal Bounded.defaultLimit items

/-- What a stream shows: a line for each item that is delivered. -/
def streamText : Except Failure (List (Except Failure StreamChunk)) → String
  | .error f => Transcript.failure f
  | .ok items => String.join ((deliveredItems items).map itemText)

/-- Whether a stream was opened and delivered no error. -/
def streamOk : Except Failure (List (Except Failure StreamChunk)) → Bool
  | .error _ => false
  | .ok items => (deliveredItems items).all Except.isOk

/-! ## Sessions that show an outcome -/

/-- The session writes `text`, asks and flushes nothing, and its answer is `ok`. -/
structure Shows (s : Dialogue Bool) (text : String) (ok : Bool) : Prop where
  flushFree : s.FlushFree
  outcome : ∀ {State : Type} (world : World Api Api.Outcome State) (state : State),
    s.outcome world state = (ok, state)
  written : ∀ {State : Type} (world : World Api Api.Outcome State) (state : State),
    Step.written (s.story world state) = text
  questions : ∀ {State : Type} (world : World Api Api.Outcome State) (state : State),
    Step.questions (s.story world state) = []

namespace Shows

theorem done (ok : Bool) : Shows (.done ok) "" ok :=
  ⟨trivial, fun _ _ => rfl, fun _ _ => rfl, fun _ _ => rfl⟩

theorem put {s : Dialogue Bool} {rest : String} {ok : Bool} (text : String) (h : Shows s rest ok) :
    Shows (Session.put text >>= fun _ => s) (text ++ rest) ok where
  flushFree := h.flushFree
  outcome world state := h.outcome world state
  written world state := congrArg (text ++ ·) (h.written world state)
  questions world state := h.questions world state

theorem tell {s : Dialogue Bool} {rest : String} {ok : Bool} (event : Log.Event)
    (h : Shows s rest ok) : Shows (Session.tell event >>= fun _ => s) rest ok where
  flushFree := h.flushFree
  outcome world state := h.outcome world state
  written world state := h.written world state
  questions world state := h.questions world state

theorem tellAll {s : Dialogue Bool} {rest : String} {ok : Bool} (events : List Log.Event)
    (h : Shows s rest ok) : Shows (Session.tellAll events >>= fun _ => s) rest ok := by
  induction events with
  | nil => exact h
  | cons event events ih => exact ih.tell event

theorem bind {s : Dialogue Bool} {f : Bool → Dialogue Bool} {text : String} {ok : Bool}
    {rest : Bool → String} {answer : Bool → Bool} (hs : Shows s text ok)
    (hf : ∀ a, Shows (f a) (rest a) (answer a)) :
    Shows (s >>= f) (text ++ rest ok) (answer ok) where
  flushFree := hs.flushFree.bind fun a => (hf a).flushFree
  outcome world state := by
    rw [Session.bind_eq, Session.outcome_bind, hs.outcome, (hf ok).outcome]
  written world state := by
    rw [Session.bind_eq, Session.story_bind, Step.written_append, hs.written, hs.outcome,
      (hf ok).written]
  questions world state := by
    rw [Session.bind_eq, Session.story_bind, Step.questions_append, hs.questions, hs.outcome,
      (hf ok).questions]
    rfl

theorem line (text : String) (ok : Bool) :
    Shows (Session.put text >>= fun _ => .done ok) text ok := by
  have h := (Shows.done ok).put text
  rwa [String.append_empty] at h

end Shows

theorem shows_report (call : String) (f : Failure) :
    Shows (report call f) (Transcript.failure f) false :=
  (Shows.line (Transcript.failure f) false).tell _

theorem shows_health (o : Except Failure HealthCheckResponse) :
    Shows (showHealth o) (healthText o) o.isOk := by
  cases o with
  | error f => exact shows_report "Check" f
  | ok response => exact Shows.line _ true

theorem shows_page (o : Except Failure ExecuteResponse) :
    Shows (showPage o) (pageText o) o.isOk := by
  cases o with
  | error f => exact shows_report "Execute" f
  | ok response =>
    simp only [showPage, pageText, String.append_assoc]
    refine Shows.put _ (Shows.put _ (Shows.put _ ?_))
    cases response.metadata with
    | none => exact Shows.done true
    | some metadata => exact (Shows.line _ true).put _

theorem shows_form (o : Except Failure ExecuteResponse) :
    Shows (showForm o) (formText o) o.isOk := by
  cases o with
  | error f => exact shows_report "Execute" f
  | ok response => exact (Shows.line _ true).put _

theorem shows_items (items : List (Except Failure StreamChunk)) :
    Shows (showItems items) (String.join (items.map itemText)) (items.all Except.isOk) := by
  induction items with
  | nil => exact Shows.done true
  | cons item rest ih =>
    rw [List.map_cons, String.join_cons, List.all_cons]
    cases item with
    | ok chunk => exact ih.put (chunkLine chunk)
    | error f =>
      have hrest : Shows (showItems rest >>= fun _ => .done false)
          (String.join (rest.map itemText) ++ "") false := ih.bind fun _ => Shows.done false
      rw [String.append_empty] at hrest
      exact (shows_report "ExecuteStream" f).bind fun _ => hrest

theorem shows_stream (o : Except Failure (List (Except Failure StreamChunk))) :
    Shows (showStream o) (streamText o) (streamOk o) := by
  cases o with
  | error f => exact shows_report "ExecuteStream" f
  | ok items =>
    rw [showStream, Bounded.collectItems_eq]
    have hrelease : ∀ ok, Shows (Session.tellAll (Bounded.reference StreamChunk.isFinal
        Bounded.defaultLimit Bounded.nextItem items (items.length + 1)).finish.2.1 >>= fun _ =>
          .done ok) "" ok :=
      fun ok => (Shows.done ok).tellAll _
    have h := (shows_items (deliveredItems items)).bind hrelease
    rw [String.append_empty] at h
    exact h

/-! ## The calls in order -/

/-- A section of the transcript. -/
def sectionText (index : Nat) (title body : String) : String :=
  Transcript.title index title ++ body ++ Transcript.blank

/-- A call under a title asks its one question, and writes a section that depends on the outcome
alone. -/
theorem demonstrate_section (index : Nat) (title : String) (q : Api)
    {showOutcome : q.Outcome → Dialogue Bool} {body : q.Outcome → String} {ok : q.Outcome → Bool}
    (h : ∀ o, Shows (showOutcome o) (body o) (ok o)) {State : Type}
    (world : World Api Api.Outcome State) (state : State) :
    (demonstrate index title q showOutcome).outcome world state =
        (ok (world q state).1, (world q state).2) ∧
      Step.written ((demonstrate index title q showOutcome).story world state) =
        sectionText index title (body (world q state).1) ∧
      Step.questions ((demonstrate index title q showOutcome).story world state) = [q] := by
  have hshow := h (world q state).1
  simp only [demonstrate, Session.bind_eq, Session.outcome_bind, Session.story_bind,
    Session.outcome_put, Session.outcome_request, Session.story_put, Session.story_request,
    Session.pure_eq_done, Session.outcome_done, Session.story_done, hshow.outcome, true_and]
  refine ⟨?_, ?_⟩
  · simp only [Step.written_append, Step.written_wrote, Step.written_asked, Step.written_nil,
      hshow.written, String.append_empty, String.empty_append, sectionText, String.append_assoc]
  · simp only [Step.questions_append, Step.questions_wrote, Step.questions_asked,
      Step.questions_nil, hshow.questions, List.nil_append, List.append_nil]

theorem flushFree_demonstrate (index : Nat) (title : String) (q : Api)
    {showOutcome : q.Outcome → Dialogue Bool} (h : ∀ o, (showOutcome o).FlushFree) :
    (demonstrate index title q showOutcome).FlushFree :=
  fun o => (h o).bind fun _ => trivial

/-- The outcomes of the four calls. -/
structure Outcomes where
  health : Except Failure HealthCheckResponse
  page : Except Failure ExecuteResponse
  form : Except Failure ExecuteResponse
  stream : Except Failure (List (Except Failure StreamChunk))

namespace Outcomes

/-- The questions of the four calls. -/
def questions : List Api :=
  [.check {}, .execute getRequest, .execute postRequest, .executeStream streamRequest]

section

variable {State : Type} (world : World Api Api.Outcome State) (state : State)

/-- What a world answers to the four questions, and the world after them. -/
def answered : Outcomes × State :=
  let (health, s₁) := world (.check {}) state
  let (page, s₂) := world (.execute getRequest) s₁
  let (form, s₃) := world (.execute postRequest) s₂
  let (stream, s₄) := world (.executeStream streamRequest) s₃
  (⟨health, page, form, stream⟩, s₄)

/-- What a world answers to the four questions. -/
def ofWorld : Outcomes :=
  (answered world state).1

end

variable (o : Outcomes)

/-- The lines before the first section. -/
def opening : String :=
  Transcript.line "Using generated proto bindings" ++ Transcript.blank

/-- The transcript of the four calls. -/
def transcript : String :=
  opening ++ sectionText 1 "Health Check" (healthText o.health) ++
    sectionText 2 "Execute Script" (pageText o.page) ++
    sectionText 3 "Execute POST Request" (formText o.form) ++
    sectionText 4 "Streaming Response" (streamText o.stream)

/-- Which of the four calls are counted as completed. -/
def completed : List Bool :=
  [o.health.isOk, o.page.isOk, o.form.isOk, streamOk o.stream]

/-- Which of the four calls were answered. -/
def answers : List Bool :=
  [o.health.isOk, o.page.isOk, o.form.isOk, o.stream.isOk]

/-- Whether the stream was opened, and stopped at an error. -/
def breaks : Bool :=
  match o.stream with
  | .error _ => false
  | .ok items => streamStop? items = some .failed

end Outcomes

theorem flushFree_fourCalls : fourCalls.FlushFree := by
  have hhealth := flushFree_demonstrate 1 "Health Check" (.check {}) fun o =>
    (shows_health o).flushFree
  have hpage := flushFree_demonstrate 2 "Execute Script" (.execute getRequest) fun o =>
    (shows_page o).flushFree
  have hform := flushFree_demonstrate 3 "Execute POST Request" (.execute postRequest) fun o =>
    (shows_form o).flushFree
  have hstream := flushFree_demonstrate 4 "Streaming Response" (.executeStream streamRequest)
    fun o => (shows_stream o).flushFree
  have hcalls : ∀ f : Bool → Bool → Bool → Bool → Tally,
      (demonstrate 1 "Health Check" (.check {}) showHealth >>= fun health =>
        demonstrate 2 "Execute Script" (.execute getRequest) showPage >>= fun page =>
        demonstrate 3 "Execute POST Request" (.execute postRequest) showForm >>= fun form =>
        demonstrate 4 "Streaming Response" (.executeStream streamRequest) showStream >>=
          fun stream => pure (f health page form stream)).FlushFree :=
    fun f => hhealth.bind fun _ => hpage.bind fun _ => hform.bind fun _ => hstream.bind fun _ =>
      trivial
  exact hcalls _

theorem fourCalls_eq {State : Type} (world : World Api Api.Outcome State) (state : State) :
    fourCalls.outcome world state =
        ((Outcomes.ofWorld world state).completed.foldl Tally.record {},
          (Outcomes.answered world state).2) ∧
      Step.written (fourCalls.story world state) = (Outcomes.ofWorld world state).transcript ∧
      Step.questions (fourCalls.story world state) = Outcomes.questions := by
  obtain ⟨o₁, w₁, q₁⟩ := demonstrate_section 1 "Health Check" (.check {}) shows_health world state
  obtain ⟨o₂, w₂, q₂⟩ :=
    demonstrate_section 2 "Execute Script" (.execute getRequest) shows_page world
      (world (.check {}) state).2
  obtain ⟨o₃, w₃, q₃⟩ :=
    demonstrate_section 3 "Execute POST Request" (.execute postRequest) shows_form world
      (world (.execute getRequest) (world (.check {}) state).2).2
  obtain ⟨o₄, w₄, q₄⟩ :=
    demonstrate_section 4 "Streaming Response" (.executeStream streamRequest) shows_stream world
      (world (.execute postRequest) (world (.execute getRequest) (world (.check {}) state).2).2).2
  simp only [fourCalls, Session.bind_eq, Session.outcome_bind, Session.story_bind,
    Session.outcome_put, Session.story_put, Session.pure_eq_done, Session.outcome_done,
    Session.story_done, o₁, o₂, o₃, o₄]
  refine ⟨rfl, ?_, ?_⟩
  · simp only [Step.written_append, Step.written_wrote, Step.written_nil, w₁, w₂, w₃, w₄,
      String.append_empty]
    simp only [Outcomes.transcript, Outcomes.opening, String.append_assoc]
    rfl
  · simp only [Step.questions_append, Step.questions_wrote, Step.questions_nil, q₁, q₂, q₃, q₄]
    rfl

/-- A run of the four calls in a sink without a limit. -/
theorem run_fourCalls_eq {State : Type} (world : World Api Api.Outcome State) (state : State)
    (flushFails : Bool) :
    let o := Outcomes.ofWorld world state
    let r := fourCalls.run world { flushFails := flushFails } state
    r.result = .ok (o.completed.foldl Tally.record {}) ∧
      r.output = Text.Utf8.encode o.transcript ∧ r.questions = Outcomes.questions := by
  intro o r
  obtain ⟨houtcome, hwritten, hquestions⟩ := fourCalls_eq world state
  have hr : r = _ := Session.run_eq_story world fourCalls rfl (.inr flushFree_fourCalls) state
  refine ⟨?_, ?_, ?_⟩
  · rw [hr, houtcome]
  · rw [hr, hwritten]
  · rw [Run.questions_eq, hr, hquestions]

end ScriptClient.Demonstration
