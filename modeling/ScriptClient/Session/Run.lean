import ScriptClient.Session.Basic
import ScriptClient.Text.Utf8

set_option autoImplicit false

/-! # Running a session

A session runs against a world that answers its questions and a sink that takes its texts. What
remains is a record: the result, the bytes the sink took, and the steps in the order they happened.
Sessions that follow each other run after each other (`Session.run_bind`), and an event that is
ensured is the last step however the session ends (`Session.run_ensure`). With an unlimited sink a
session comes to its end (`Session.run_unlimited`). -/

namespace ScriptClient

/-- Why a transcript cannot be written on. -/
inductive Fault where
  /-- The sink has no room left. -/
  | full
  /-- The sink could not pass on what it took. -/
  | flush
  deriving DecidableEq, Repr

/-- The words for a fault. -/
def Fault.message : Fault → String
  | .full => "transcript full"
  | .flush => "flush failed"

/-- Where a transcript goes. -/
structure Sink where
  /-- How many bytes are still taken; there is no limit if there is no number. -/
  room : Option Nat := none
  /-- Whether flushing fails. -/
  flushFails : Bool := false
  deriving DecidableEq, Repr

namespace Sink

/-- What a sink does with bytes: it takes as many as fit, and faults if some do not. -/
structure Acceptance where
  taken : List UInt8
  sink : Sink
  fits : Bool

/-- Offers bytes to a sink. -/
def accept (s : Sink) (bytes : List UInt8) : Acceptance :=
  match s.room with
  | none => ⟨bytes, s, true⟩
  | some n => ⟨bytes.take n, { s with room := some (n - bytes.length) }, bytes.length ≤ n⟩

theorem accept_unlimited (s : Sink) (bytes : List UInt8) (h : s.room = none) :
    s.accept bytes = ⟨bytes, s, true⟩ := by
  rw [accept, h]

end Sink

/-- A step of a run that its world or its log can see, or a text that was written. -/
inductive Step (Ask : Type) where
  | wrote (text : String)
  | logged (event : Log.Event)
  | asked (question : Ask)

/-- What remains of a run. -/
structure Run (Ask State α : Type) where
  result : Except Fault α
  /-- The bytes that the sink took. -/
  output : List UInt8
  /-- What happened, in order. -/
  steps : List (Step Ask)
  /-- The sink as it is left. -/
  sink : Sink
  /-- The world as it is left. -/
  state : State

namespace Run

variable {Ask State α : Type}

/-- The run with one step before it. -/
def after (step : Step Ask) (r : Run Ask State α) : Run Ask State α :=
  { r with steps := step :: r.steps }

/-- The run that goes on with what `f` makes of its result. A run that a fault ended stays as it
is. -/
def andThen {β : Type} (r : Run Ask State α) (f : α → Sink → State → Run Ask State β) :
    Run Ask State β :=
  match r.result with
  | .error fault => ⟨.error fault, r.output, r.steps, r.sink, r.state⟩
  | .ok a =>
    let r' := f a r.sink r.state
    { r' with output := r.output ++ r'.output, steps := r.steps ++ r'.steps }

/-- The texts that were written, in order. -/
def texts (r : Run Ask State α) : List String :=
  r.steps.filterMap fun
    | .wrote text => some text
    | _ => none

/-- The events that were logged, in order. -/
def events (r : Run Ask State α) : List Log.Event :=
  r.steps.filterMap fun
    | .logged e => some e
    | _ => none

/-- The questions that were asked, in order. -/
def questions (r : Run Ask State α) : List Ask :=
  r.steps.filterMap fun
    | .asked q => some q
    | _ => none

end Run

/-- Answers questions, each in the state that the answers before it left. -/
abbrev World (Ask : Type) (Answer : Ask → Type) (State : Type) :=
  (q : Ask) → State → Answer q × State

namespace Session

variable {Ask : Type} {Answer : Ask → Type} {State α β : Type}

/-- Runs a session. -/
def run (world : World Ask Answer State) :
    Session Ask Answer α → Sink → State → Run Ask State α
  | done a, sink, state => ⟨.ok a, [], [], sink, state⟩
  | write text closing next, sink, state =>
    let acceptance := sink.accept (Text.Utf8.encode text)
    if acceptance.fits then
      let r := next.run world acceptance.sink state
      { r with output := acceptance.taken ++ r.output, steps := .wrote text :: r.steps }
    else ⟨.error .full, acceptance.taken, closing.map .logged, acceptance.sink, state⟩
  | flush closing next, sink, state =>
    if sink.flushFails then ⟨.error .flush, [], closing.map .logged, sink, state⟩
    else next.run world sink state
  | log event next, sink, state => (next.run world sink state).after (.logged event)
  | ask q next, sink, state =>
    let (a, state') := world q state
    ((next a).run world sink state').after (.asked q)

/-! ## Sessions that follow each other -/

/-- What follows a session runs with its result, in the sink and the state that it leaves. -/
theorem run_bind (world : World Ask Answer State) (s : Session Ask Answer α)
    (f : α → Session Ask Answer β) (sink : Sink) (state : State) :
    (s.bind f).run world sink state =
      (s.run world sink state).andThen fun a => (f a).run world := by
  induction s generalizing sink state with
  | done a => rfl
  | write text closing next ih =>
    simp only [bind, run, ih]
    split
    · simp only [Run.andThen]
      split <;> simp
    · rfl
  | flush closing next ih =>
    simp only [bind, run, ih]
    split <;> rfl
  | log event next ih =>
    simp only [bind, run, ih, Run.andThen, Run.after]
    split <;> simp
  | ask q next ih =>
    simp only [bind, run, ih, Run.andThen, Run.after]
    split <;> simp

/-- An event that is ensured comes after all other steps, whether a fault ended them or not. -/
theorem run_ensure (world : World Ask Answer State) (event : Log.Event)
    (s : Session Ask Answer α) (sink : Sink) (state : State) :
    (s.ensure event).run world sink state =
      { s.run world sink state with
        steps := (s.run world sink state).steps ++ [.logged event] } := by
  induction s generalizing sink state with
  | done a => rfl
  | write text closing next ih =>
    simp only [ensure, run, ih]
    split <;> simp
  | flush closing next ih =>
    simp only [ensure, run, ih]
    split <;> simp
  | log e next ih => simp [ensure, run, ih, Run.after]
  | ask q next ih => simp [ensure, run, ih, Run.after]

/-! ## Unlimited sinks -/

/-- A sink without a limit that can be flushed ends no session: there is a result, the sink is as
before, and what it took are the bytes of the texts. -/
theorem run_unlimited (world : World Ask Answer State) (s : Session Ask Answer α) (state : State) :
    (∃ a, (s.run world {} state).result = .ok a) ∧ (s.run world {} state).sink = {} ∧
      (s.run world {} state).output = (s.run world {} state).texts.flatMap Text.Utf8.encode := by
  induction s generalizing state with
  | done a => exact ⟨⟨a, rfl⟩, rfl, rfl⟩
  | write text closing next ih =>
    obtain ⟨hr, hs, ho⟩ := ih state
    refine ⟨hr, hs, ?_⟩
    simp only [run, Sink.accept_unlimited, if_true, ho, Run.texts, List.filterMap_cons,
      List.flatMap_cons]
  | flush closing next ih => exact ih state
  | log event next ih => exact ih state
  | ask q next ih => exact ih _ _

end Session

end ScriptClient
