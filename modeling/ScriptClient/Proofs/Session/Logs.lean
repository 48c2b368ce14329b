import ScriptClient.Session.Run

set_option autoImplicit false

/-! # What a session may log

A property of all events that a session can log, on every way through it and also where its
transcript cannot be written on (`Session.LogsOnly`), holds of the events of every run. -/

namespace ScriptClient

/-- What follows a run without a step of its own leaves the steps of the run. -/
theorem Run.steps_andThen {Ask State α β : Type} (r : Run Ask State α)
    {f : α → Sink → State → Run Ask State β} (h : ∀ a sink state, (f a sink state).steps = []) :
    (r.andThen f).steps = r.steps := by
  rw [andThen]
  split
  · rfl
  next a _ =>
    show r.steps ++ (f a r.sink r.state).steps = r.steps
    rw [h, List.append_nil]

namespace Session

variable {Ask : Type} {Answer : Ask → Type} {State α β : Type} {P : Log.Event → Prop}

/-- Whether a session logs only events with `P`, whatever it is answered. -/
def LogsOnly (P : Log.Event → Prop) : Session Ask Answer α → Prop
  | done _ => True
  | write _ closing next => (∀ e ∈ closing, P e) ∧ next.LogsOnly P
  | flush closing next => (∀ e ∈ closing, P e) ∧ next.LogsOnly P
  | log event next => P event ∧ next.LogsOnly P
  | ask _ next => ∀ a, (next a).LogsOnly P

theorem LogsOnly.bind {s : Session Ask Answer α} {f : α → Session Ask Answer β}
    (hs : s.LogsOnly P) (hf : ∀ a, (f a).LogsOnly P) : (s.bind f).LogsOnly P := by
  induction s with
  | done a => exact hf a
  | write text closing next ih => exact ⟨hs.1, ih hs.2⟩
  | flush closing next ih => exact ⟨hs.1, ih hs.2⟩
  | log event next ih => exact ⟨hs.1, ih hs.2⟩
  | ask q next ih => exact fun a => ih a (hs a)

/-- A session whose questions other sessions answer logs what they log, too. -/
theorem LogsOnly.lower {Ask' : Type} {Answer' : Ask' → Type}
    {handle : (q : Ask) → Session Ask' Answer' (Answer q)} {s : Session Ask Answer α}
    (hs : s.LogsOnly P) (hhandle : ∀ q, (handle q).LogsOnly P) : (s.lower handle).LogsOnly P := by
  induction s with
  | done a => trivial
  | write text closing next ih => exact ⟨hs.1, ih hs.2⟩
  | flush closing next ih => exact ⟨hs.1, ih hs.2⟩
  | log event next ih => exact ⟨hs.1, ih hs.2⟩
  | ask q next ih => exact (hhandle q).bind fun a => ih a (hs a)

theorem logsOnly_put (text : String) : (put text : Session Ask Answer Unit).LogsOnly P :=
  ⟨nofun, trivial⟩

theorem logsOnly_tell {event : Log.Event} (h : P event) :
    (tell event : Session Ask Answer Unit).LogsOnly P :=
  ⟨h, trivial⟩

theorem logsOnly_tellAll {events : List Log.Event} (h : ∀ e ∈ events, P e) :
    (tellAll events : Session Ask Answer Unit).LogsOnly P := by
  induction events with
  | nil => trivial
  | cons event events ih =>
    exact ⟨h event List.mem_cons_self, ih fun e he => h e (List.mem_cons_of_mem event he)⟩

theorem logsOnly_request (q : Ask) : (request q : Session Ask Answer _).LogsOnly P :=
  fun _ => trivial

/-- The events of a run are events that its session may log. -/
theorem LogsOnly.of_mem_steps {s : Session Ask Answer α} (h : s.LogsOnly P)
    (world : World Ask Answer State) (sink : Sink) (state : State) {e : Log.Event}
    (he : .logged e ∈ (s.run world sink state).steps) : P e := by
  induction s generalizing sink state with
  | done a => exact absurd he List.not_mem_nil
  | write text closing next ih =>
    rw [run] at he
    split at he
    · rcases List.mem_cons.mp he with hwrote | he
      · cases hwrote
      · exact ih h.2 _ _ he
    · obtain ⟨_, hclosing, ⟨⟩⟩ := List.mem_map.mp he
      exact h.1 e hclosing
  | flush closing next ih =>
    rw [run] at he
    split at he
    · obtain ⟨_, hclosing, ⟨⟩⟩ := List.mem_map.mp he
      exact h.1 e hclosing
    · exact ih h.2 _ _ he
  | log event next ih =>
    rcases List.mem_cons.mp he with hlogged | he
    · cases hlogged
      exact h.1
    · exact ih h.2 _ _ he
  | ask q next ih =>
    rcases List.mem_cons.mp he with hasked | he
    · cases hasked
    · exact ih _ (h _) _ _ he

end Session

end ScriptClient
