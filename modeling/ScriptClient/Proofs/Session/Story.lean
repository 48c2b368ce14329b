import ScriptClient.Session.Run

set_option autoImplicit false

/-! # The story of a session

What a session does when every text it writes is taken: its result and the world after it
(`Session.outcome`), and its steps in order (`Session.story`). Both are read off the tree of the
session, so the story of sessions that follow each other is one story after the other
(`Session.story_bind`). A sink without a limit gives exactly the story (`Session.run_eq_story`). -/

namespace ScriptClient

/-! ## What steps write, tell and ask -/

namespace Step

variable {Ask : Type}

/-- The text that steps write. -/
def written : List (Step Ask) → String
  | [] => ""
  | .wrote text :: rest => text ++ written rest
  | .logged _ :: rest => written rest
  | .asked _ :: rest => written rest

/-- The questions that steps ask, in order. -/
def questions : List (Step Ask) → List Ask
  | [] => []
  | .wrote _ :: rest => questions rest
  | .logged _ :: rest => questions rest
  | .asked q :: rest => q :: questions rest

@[simp] theorem written_nil : written ([] : List (Step Ask)) = "" := rfl

@[simp]
theorem written_wrote (text : String) (rest : List (Step Ask)) :
    written (.wrote text :: rest) = text ++ written rest := rfl

@[simp]
theorem written_logged (e : Log.Event) (rest : List (Step Ask)) :
    written (.logged e :: rest) = written rest := rfl

@[simp]
theorem written_asked (q : Ask) (rest : List (Step Ask)) :
    written (.asked q :: rest) = written rest := rfl

@[simp]
theorem written_append (l r : List (Step Ask)) : written (l ++ r) = written l ++ written r := by
  induction l with
  | nil => simp
  | cons step l ih =>
    cases step with
    | wrote text => simp only [List.cons_append, written_wrote, ih, String.append_assoc]
    | logged e => simpa using ih
    | asked q => simpa using ih

@[simp] theorem questions_nil : questions ([] : List (Step Ask)) = [] := rfl

@[simp]
theorem questions_wrote (text : String) (rest : List (Step Ask)) :
    questions (.wrote text :: rest) = questions rest := rfl

@[simp]
theorem questions_logged (e : Log.Event) (rest : List (Step Ask)) :
    questions (.logged e :: rest) = questions rest := rfl

@[simp]
theorem questions_asked (q : Ask) (rest : List (Step Ask)) :
    questions (.asked q :: rest) = q :: questions rest := rfl

@[simp]
theorem questions_append (l r : List (Step Ask)) :
    questions (l ++ r) = questions l ++ questions r := by
  induction l with
  | nil => rfl
  | cons step l ih => cases step <;> simpa using ih

theorem written_map_logged (events : List Log.Event) :
    written (events.map .logged : List (Step Ask)) = "" := by
  induction events with
  | nil => rfl
  | cons event rest ih => exact ih

theorem questions_map_logged (events : List Log.Event) :
    questions (events.map .logged : List (Step Ask)) = [] := by
  induction events with
  | nil => rfl
  | cons event rest ih => exact ih

end Step

theorem Run.questions_eq {Ask State α : Type} (r : Run Ask State α) :
    r.questions = Step.questions r.steps := by
  rw [Run.questions]
  induction r.steps with
  | nil => rfl
  | cons step rest ih => cases step <;> simpa using ih

namespace Session

variable {Ask : Type} {Answer : Ask → Type} {State α β : Type}

/-! ## Results and steps -/

/-- The result of a session in a world, and the world after it, when every text is taken. -/
def outcome (world : World Ask Answer State) : Session Ask Answer α → State → α × State
  | done a, state => (a, state)
  | write _ _ next, state => next.outcome world state
  | flush _ next, state => next.outcome world state
  | log _ next, state => next.outcome world state
  | ask q next, state => (next (world q state).1).outcome world (world q state).2

/-- The steps of a session in a world, when every text is taken. -/
def story (world : World Ask Answer State) : Session Ask Answer α → State → List (Step Ask)
  | done _, _ => []
  | write text _ next, state => .wrote text :: next.story world state
  | flush _ next, state => next.story world state
  | log event next, state => .logged event :: next.story world state
  | ask q next, state => .asked q :: (next (world q state).1).story world (world q state).2

theorem bind_eq (s : Session Ask Answer α) (f : α → Session Ask Answer β) :
    (s >>= f) = s.bind f := rfl

section

variable (world : World Ask Answer State) (state : State)

theorem outcome_bind (s : Session Ask Answer α) (f : α → Session Ask Answer β) :
    (s.bind f).outcome world state =
      (f (s.outcome world state).1).outcome world (s.outcome world state).2 := by
  induction s generalizing state with
  | done a => rfl
  | write text closing next ih => exact ih state
  | flush closing next ih => exact ih state
  | log event next ih => exact ih state
  | ask q next ih => exact ih _ _

/-- What follows a session comes after its steps. -/
theorem story_bind (s : Session Ask Answer α) (f : α → Session Ask Answer β) :
    (s.bind f).story world state =
      s.story world state ++
        (f (s.outcome world state).1).story world (s.outcome world state).2 := by
  induction s generalizing state with
  | done a => rfl
  | write text closing next ih => simp only [bind, story, outcome, ih, List.cons_append]
  | flush closing next ih => simp only [bind, story, outcome, ih]
  | log event next ih => simp only [bind, story, outcome, ih, List.cons_append]
  | ask q next ih => simp only [bind, story, outcome, ih, List.cons_append]

theorem outcome_ensure (event : Log.Event) (s : Session Ask Answer α) :
    (s.ensure event).outcome world state = s.outcome world state := by
  induction s generalizing state with
  | done a => rfl
  | write text closing next ih => exact ih state
  | flush closing next ih => exact ih state
  | log e next ih => exact ih state
  | ask q next ih => exact ih _ _

theorem story_ensure (event : Log.Event) (s : Session Ask Answer α) :
    (s.ensure event).story world state = s.story world state ++ [.logged event] := by
  induction s generalizing state with
  | done a => rfl
  | write text closing next ih => simp only [ensure, story, ih, List.cons_append]
  | flush closing next ih => simp only [ensure, story, ih]
  | log e next ih => simp only [ensure, story, ih, List.cons_append]
  | ask q next ih => simp only [ensure, story, ih, List.cons_append]

@[simp]
theorem outcome_done (a : α) :
    (done a : Session Ask Answer α).outcome world state = (a, state) := rfl

@[simp]
theorem story_done (a : α) : (done a : Session Ask Answer α).story world state = [] := rfl

@[simp]
theorem outcome_put (text : String) : (put text).outcome world state = ((), state) := rfl

@[simp]
theorem story_put (text : String) : (put text).story world state = [.wrote text] := rfl

@[simp]
theorem outcome_tell (event : Log.Event) : (tell event).outcome world state = ((), state) := rfl

@[simp]
theorem story_tell (event : Log.Event) : (tell event).story world state = [.logged event] := rfl

@[simp]
theorem outcome_tellAll (events : List Log.Event) :
    (tellAll events).outcome world state = ((), state) := by
  induction events with
  | nil => rfl
  | cons e rest ih => exact ih

@[simp]
theorem story_tellAll (events : List Log.Event) :
    (tellAll events).story world state = events.map .logged := by
  induction events with
  | nil => rfl
  | cons e rest ih => simp only [tellAll, story, ih, List.map_cons]

@[simp]
theorem outcome_request (q : Ask) : (request q).outcome world state = world q state := rfl

@[simp]
theorem story_request (q : Ask) : (request q).story world state = [.asked q] := rfl

end

/-! ## Worlds that agree -/

/-- Whether a session asks only questions with `P`, whatever it is answered. -/
def AsksOnly (P : Ask → Prop) : Session Ask Answer α → Prop
  | done _ => True
  | write _ _ next => next.AsksOnly P
  | flush _ next => next.AsksOnly P
  | log _ next => next.AsksOnly P
  | ask q next => P q ∧ ∀ a, (next a).AsksOnly P

/-- Worlds that answer alike what a session may ask are one to it. -/
theorem AsksOnly.outcome_eq {P : Ask → Prop} {s : Session Ask Answer α} (h : s.AsksOnly P)
    {world world' : World Ask Answer State} (hsame : ∀ q, P q → world q = world' q)
    (state : State) : s.outcome world state = s.outcome world' state := by
  induction s generalizing state with
  | done a => rfl
  | write text closing next ih => exact ih h state
  | flush closing next ih => exact ih h state
  | log event next ih => exact ih h state
  | ask q next ih =>
    rw [outcome, outcome, hsame q h.1]
    exact ih _ (h.2 _) _

/-! ## Sessions whose questions other sessions answer -/

section Lower

variable {Ask' : Type} {Answer' : Ask' → Type}
  (handle : (q : Ask) → Session Ask' Answer' (Answer q)) (world : World Ask' Answer' State)

/-- The world that the sessions which answer make of theirs. -/
def through : World Ask Answer State :=
  fun q => (handle q).outcome world

theorem outcome_lower (s : Session Ask Answer α) (state : State) :
    (s.lower handle).outcome world state = s.outcome (through handle world) state := by
  induction s generalizing state with
  | done a => rfl
  | write text closing next ih => exact ih state
  | flush closing next ih => exact ih state
  | log event next ih => exact ih state
  | ask q next ih => rw [lower, outcome_bind, ih]; rfl

/-- If the sessions that answer write nothing, the text is that of the session. -/
theorem written_story_lower (hquiet : ∀ q state, Step.written ((handle q).story world state) = "")
    (s : Session Ask Answer α) (state : State) :
    Step.written ((s.lower handle).story world state) =
      Step.written (s.story (through handle world) state) := by
  induction s generalizing state with
  | done a => rfl
  | write text closing next ih => simp only [lower, story, Step.written_wrote, ih]
  | flush closing next ih => exact ih state
  | log event next ih => exact ih state
  | ask q next ih =>
    rw [lower, story_bind, Step.written_append, hquiet, ih, String.empty_append]
    rfl

/-- If each question makes the session that answers it ask for `f` of it, the whole session asks for
`f` of all its questions in order. -/
theorem questions_story_lower {γ : Type} (g : Ask' → List γ) (f : Ask → List γ)
    (hasks : ∀ q state, (Step.questions ((handle q).story world state)).flatMap g = f q)
    (s : Session Ask Answer α) (state : State) :
    (Step.questions ((s.lower handle).story world state)).flatMap g =
      (Step.questions (s.story (through handle world) state)).flatMap f := by
  induction s generalizing state with
  | done a => rfl
  | write text closing next ih => exact ih state
  | flush closing next ih => exact ih state
  | log event next ih => exact ih state
  | ask q next ih =>
    rw [lower, story_bind, Step.questions_append, List.flatMap_append, hasks, ih]
    rfl

end Lower

/-! ## Sinks without a limit -/

/-- Whether a session does not flush its transcript, whatever it is answered. -/
def FlushFree : Session Ask Answer α → Prop
  | done _ => True
  | write _ _ next => next.FlushFree
  | flush _ _ => False
  | log _ next => next.FlushFree
  | ask _ next => ∀ a, (next a).FlushFree

theorem FlushFree.bind {s : Session Ask Answer α} {f : α → Session Ask Answer β}
    (hs : s.FlushFree) (hf : ∀ a, (f a).FlushFree) : (s.bind f).FlushFree := by
  induction s with
  | done a => exact hf a
  | write text closing next ih => exact ih hs
  | flush closing next ih => exact absurd hs id
  | log event next ih => exact ih hs
  | ask q next ih => exact fun a => ih a (hs a)

/-- A sink without a limit gives the story of a session, unless the session has it flushed and that
fails. -/
theorem run_eq_story (world : World Ask Answer State) (s : Session Ask Answer α) {sink : Sink}
    (hroom : sink.room = none) (hflush : sink.flushFails = false ∨ s.FlushFree) (state : State) :
    s.run world sink state =
      { result := .ok (s.outcome world state).1
        output := Text.Utf8.encode (Step.written (s.story world state))
        steps := s.story world state
        sink := sink
        state := (s.outcome world state).2 } := by
  induction s generalizing state with
  | done a => rfl
  | write text closing next ih =>
    simp only [run, Sink.accept_unlimited sink _ hroom, if_true, ih hflush, story, outcome,
      Step.written_wrote, Text.Utf8.encode_append]
  | flush closing next ih =>
    -- this session is not free of flushes, so the sink has to bear them
    have hfine : sink.flushFails = false := hflush.resolve_right id
    simp only [run, hfine, Bool.false_eq_true, if_false, ih (.inl hfine), story, outcome]
  | log event next ih => simp only [run, ih hflush, Run.after, story, outcome, Step.written_logged]
  | ask q next ih =>
    have hnext : sink.flushFails = false ∨ (next (world q state).1).FlushFree :=
      hflush.imp_right fun h => h _
    simp only [run, ih _ hnext, Run.after, story, outcome, Step.written_asked]

/-! ## Runs that come to their end -/

/-- A run that no fault ends is the story of its session, whatever its sink is. -/
theorem run_of_ok {world : World Ask Answer State} {s : Session Ask Answer α} {sink : Sink}
    {state : State} {a : α} (h : (s.run world sink state).result = .ok a) :
    (s.outcome world state).1 = a ∧ (s.run world sink state).steps = s.story world state := by
  induction s generalizing sink state with
  | done b =>
    cases h
    exact ⟨rfl, rfl⟩
  | write text closing next ih =>
    rw [run] at h ⊢
    split at h
    next hfits =>
      obtain ⟨houtcome, hsteps⟩ := ih h
      refine ⟨houtcome, ?_⟩
      simp only [hfits, if_true, hsteps, story]
    next => cases h
  | flush closing next ih =>
    rw [run] at h ⊢
    split at h
    next => cases h
    next hfine =>
      obtain ⟨houtcome, hsteps⟩ := ih h
      refine ⟨houtcome, ?_⟩
      rw [if_neg hfine, hsteps, story]
  | log event next ih =>
    obtain ⟨houtcome, hsteps⟩ := ih h
    exact ⟨houtcome, congrArg (Step.logged event :: ·) hsteps⟩
  | ask q next ih =>
    obtain ⟨houtcome, hsteps⟩ := ih (world q state).1 h
    exact ⟨houtcome, congrArg (Step.asked q :: ·) hsteps⟩

end Session

end ScriptClient
