import Mathlib.Data.List.Forall2
import ScriptClient.Proofs.Session.Story

set_option autoImplicit false

/-! # Quiet sessions

A session that writes and flushes nothing runs alike in every sink (`Quiet.run_eq`). So a session
whose questions are answered through quiet sessions goes as far as it does when they are answered at
once, also in a sink that is full (`run_lower`), and what the answering sessions ask follows its
questions one by one (`forall₂_questions_lower`). -/

namespace ScriptClient

namespace Session

variable {Ask : Type} {Answer : Ask → Type} {State α β : Type}

/-- Whether a session writes and flushes nothing, whatever it is answered. -/
def Quiet : Session Ask Answer α → Prop
  | done _ => True
  | write _ _ _ => False
  | flush _ _ => False
  | log _ next => next.Quiet
  | ask _ next => ∀ a, (next a).Quiet

theorem Quiet.bind {s : Session Ask Answer α} {f : α → Session Ask Answer β} (hs : s.Quiet)
    (hf : ∀ a, (f a).Quiet) : (s.bind f).Quiet := by
  induction s with
  | done a => exact hf a
  | write text closing next ih => exact absurd hs id
  | flush closing next ih => exact absurd hs id
  | log event next ih => exact ih hs
  | ask q next ih => exact fun a => ih a (hs a)

/-- A quiet session leaves every sink as it is. -/
theorem Quiet.run_eq {s : Session Ask Answer α} (h : s.Quiet) (world : World Ask Answer State)
    (sink : Sink) (state : State) :
    s.run world sink state =
      { result := .ok (s.outcome world state).1
        output := []
        steps := s.story world state
        sink := sink
        state := (s.outcome world state).2 } := by
  induction s generalizing state with
  | done a => rfl
  | write text closing next ih => exact absurd h id
  | flush closing next ih => exact absurd h id
  | log event next ih => simp only [run, ih h, Run.after, story, outcome]
  | ask q next ih => simp only [run, ih _ (h _), Run.after, story, outcome]

/-! ## Questions that quiet sessions answer -/

section Lower

variable {Ask' : Type} {Answer' : Ask' → Type}
  {handle : (q : Ask) → Session Ask' Answer' (Answer q)} (world : World Ask' Answer' State)

/-- A question that a quiet session answers is answered, and what the session asked stands before
what follows. -/
theorem run_lower_ask (hquiet : ∀ q, (handle q).Quiet) (q : Ask)
    (next : Answer q → Session Ask Answer α) (sink : Sink) (state : State) :
    let a := (handle q).outcome world state
    let r := ((next a.1).lower handle).run world sink a.2
    ((ask q next).lower handle).run world sink state =
      { r with steps := (handle q).story world state ++ r.steps } := by
  intro a r
  rw [lower, run_bind, (hquiet q).run_eq]
  rfl

/-- **Quiet answers.** Answering through quiet sessions changes neither the result of a session nor
what its sink takes. -/
theorem run_lower (hquiet : ∀ q, (handle q).Quiet) (s : Session Ask Answer α) (sink : Sink)
    (state : State) :
    let r := (s.lower handle).run world sink state
    let r' := s.run (through handle world) sink state
    r.result = r'.result ∧ r.output = r'.output ∧ r.sink = r'.sink ∧ r.state = r'.state := by
  induction s generalizing sink state with
  | done a => exact ⟨rfl, rfl, rfl, rfl⟩
  | write text closing next ih =>
    simp only [lower, run]
    split
    · obtain ⟨hresult, houtput, hsink, hstate⟩ :=
        ih (sink.accept (Text.Utf8.encode text)).sink state
      exact ⟨hresult, congrArg _ houtput, hsink, hstate⟩
    · exact ⟨rfl, rfl, rfl, rfl⟩
  | flush closing next ih =>
    simp only [lower, run]
    split
    · exact ⟨rfl, rfl, rfl, rfl⟩
    · exact ih sink state
  | log event next ih => exact ih sink state
  | ask q next ih =>
    rw [run_lower_ask world hquiet]
    exact ih _ sink _

/-- If what each question makes its quiet session ask comes to one thing under `f` that is related
to the question, then what the whole session asks comes to one thing for each question it asks, in
order. -/
theorem forall₂_questions_lower {γ : Type} (R : Ask → γ → Prop) (f : Ask' → Option γ)
    (hquiet : ∀ q, (handle q).Quiet)
    (hasks : ∀ q state, ∃ c, R q c ∧
      (Step.questions ((handle q).story world state)).filterMap f = [c])
    (s : Session Ask Answer α) (sink : Sink) (state : State) :
    List.Forall₂ R (s.run (through handle world) sink state).questions
      (((s.lower handle).run world sink state).questions.filterMap f) := by
  simp only [Run.questions_eq]
  induction s generalizing sink state with
  | done a => exact .nil
  | write text closing next ih =>
    simp only [lower, run]
    split
    · exact ih _ state
    · rw [Step.questions_map_logged, Step.questions_map_logged]
      exact .nil
  | flush closing next ih =>
    simp only [lower, run]
    split
    · rw [Step.questions_map_logged, Step.questions_map_logged]
      exact .nil
    · exact ih sink state
  | log event next ih => exact ih sink state
  | ask q next ih =>
    obtain ⟨c, hc, hone⟩ := hasks q state
    rw [run_lower_ask world hquiet, Step.questions_append, List.filterMap_append, hone]
    exact .cons hc (ih _ sink _)

end Lower

end Session

end ScriptClient
