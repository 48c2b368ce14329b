import ScriptClient.Log.Event

set_option autoImplicit false

/-! # Sessions

What a run does, step by step and apart from any world it happens in: it writes to the transcript,
tells its log, and asks questions whose answers decide how it goes on. A session ends at the first
text that cannot be written. Sessions are put together with `bind`, questions are answered by other
sessions with `lower`, and `ensure` adds an event that is logged however a session ends. -/

namespace ScriptClient

/-- A run as a tree of steps. `Answer q` are the answers to question `q`. -/
inductive Session (Ask : Type) (Answer : Ask → Type) (α : Type) where
  /-- The end of the run. -/
  | done (result : α)
  /-- Writes a text. If it does not fit, the events `closing` are logged and the run ends. -/
  | write (text : String) (closing : List Log.Event) (next : Session Ask Answer α)
  /-- Flushes the transcript. If that fails, the events `closing` are logged and the run ends. -/
  | flush (closing : List Log.Event) (next : Session Ask Answer α)
  /-- Tells the log. -/
  | log (event : Log.Event) (next : Session Ask Answer α)
  /-- Asks a question. -/
  | ask (question : Ask) (next : Answer question → Session Ask Answer α)

namespace Session

variable {Ask : Type} {Answer : Ask → Type} {α β : Type}

/-- Goes on with what `f` makes of the result. -/
def bind : Session Ask Answer α → (α → Session Ask Answer β) → Session Ask Answer β
  | done a, f => f a
  | write text closing next, f => write text closing (next.bind f)
  | flush closing next, f => flush closing (next.bind f)
  | log event next, f => log event (next.bind f)
  | ask q next, f => ask q fun a => (next a).bind f

instance : Monad (Session Ask Answer) where
  pure := done
  bind := bind

@[simp]
theorem pure_eq_done (a : α) : (pure a : Session Ask Answer α) = done a := rfl

@[simp]
theorem bind_done (s : Session Ask Answer α) : s.bind done = s := by
  induction s with
  | done a => rfl
  | write text closing next ih => rw [bind, ih]
  | flush closing next ih => rw [bind, ih]
  | log event next ih => rw [bind, ih]
  | ask q next ih => simp only [bind, ih]

theorem bind_assoc {γ : Type} (s : Session Ask Answer α) (f : α → Session Ask Answer β)
    (g : β → Session Ask Answer γ) : (s.bind f).bind g = s.bind fun a => (f a).bind g := by
  induction s with
  | done a => rfl
  | write text closing next ih => simp only [bind, ih]
  | flush closing next ih => simp only [bind, ih]
  | log event next ih => simp only [bind, ih]
  | ask q next ih => simp only [bind, ih]

/-- Writes a text. -/
def put (text : String) : Session Ask Answer Unit :=
  write text [] (done ())

/-- Tells the log. -/
def tell (event : Log.Event) : Session Ask Answer Unit :=
  log event (done ())

/-- Tells the log several events in order. -/
def tellAll : List Log.Event → Session Ask Answer Unit
  | [] => done ()
  | event :: rest => log event (tellAll rest)

/-- Asks a question. -/
def request (q : Ask) : Session Ask Answer (Answer q) :=
  ask q done

/-- Logs `event` when the session ends, whether a text could not be written or not. -/
def ensure (event : Log.Event) : Session Ask Answer α → Session Ask Answer α
  | done a => log event (done a)
  | write text closing next => write text (closing ++ [event]) (next.ensure event)
  | flush closing next => flush (closing ++ [event]) (next.ensure event)
  | log e next => log e (next.ensure event)
  | ask q next => ask q fun a => (next a).ensure event

/-- Answers the questions of a session by sessions with questions of another kind. -/
def lower {Ask' : Type} {Answer' : Ask' → Type}
    (handle : (q : Ask) → Session Ask' Answer' (Answer q)) :
    Session Ask Answer α → Session Ask' Answer' α
  | done a => done a
  | write text closing next => write text closing (next.lower handle)
  | flush closing next => flush closing (next.lower handle)
  | log event next => log event (next.lower handle)
  | ask q next => (handle q).bind fun a => (next a).lower handle

end Session

end ScriptClient
