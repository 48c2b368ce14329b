import ScriptClient.Proofs.Call.Raw
import ScriptClient.Proofs.Log.Message

set_option autoImplicit false

/-! # Where raw calls go

A raw call is logged under the path of its method, and sent to that path up to the first number sign
(`Method.remotePath`), because what follows one is no part of a request. So a call goes to the path
that is shown for it exactly if neither of its names has a number sign, and two such calls go to one
path only if their methods have one path (`calls_reach_paths`). -/

namespace ScriptClient

namespace Rpc.Method

/-- The path of a method without a number sign and what follows it. -/
def remotePath (m : Method) : String :=
  String.ofList (m.path.toList.takeWhile (· ≠ '#'))

/-- Neither name of the method has a number sign. -/
def Unmarked (m : Method) : Prop :=
  '#' ∉ m.service.toList ∧ '#' ∉ m.method.toList

instance (m : Method) : Decidable m.Unmarked :=
  inferInstanceAs (Decidable (_ ∧ _))

theorem mark_not_mem_path {m : Method} : '#' ∉ m.path.toList ↔ m.Unmarked := by
  simp [path, Unmarked]

/-- The path is cut exactly if it has a number sign. -/
theorem remotePath_eq_path_iff {m : Method} : m.remotePath = m.path ↔ m.Unmarked := by
  rw [remotePath, String.ofList_eq, List.takeWhile_eq_self_iff, ← mark_not_mem_path]
  simp only [decide_eq_true_eq]
  exact ⟨fun h hmem => h '#' hmem rfl, fun h c hc heq => h (heq ▸ hc)⟩

end Rpc.Method

namespace Call.Raw

open Rpc

/-- A world that answers every request with nothing. -/
def silence : World Ask Ask.Answer Unit
  | .tick, _ => ((⟨0, 0⟩ : Trace.Tick), ())
  | .random, _ => ((⟨0, 0⟩ : RandomBits), ())
  | .unary _, _ => (.ok [], ())
  | .streaming _, _ => (.ok [], ())

namespace Invocation

variable {c c' : Invocation} {request request' : Request}

/-- The call sends the request in a run, be it in one world and sink only. -/
def MaySend (c : Invocation) (request : Request) : Prop :=
  ∃ (State : Type) (world : World Ask Ask.Answer State) (sink : Sink) (state : State),
    .unary request ∈ (c.make.run world sink state).questions

/-- A call tells the log what it is about to ask, and asks it. -/
theorem steps_make (c : Invocation) {State : Type} (world : World Ask Ask.Answer State)
    (sink : Sink) (state : State) :
    (c.make.run world sink state).steps =
      c.ask?.toList.flatMap fun q => [.logged (event c.method c.payload), .asked q] := by
  rw [c.quiet_make.run_eq]
  cases h : Endpoint.pathAndQuery? c.method.path.toList with
  | none => rw [make, unary_of_no_path _ h, ask?, h]; rfl
  | some path => rw [make, unary_of_path _ h, ask?, h]; rfl

theorem questions_make (c : Invocation) {State : Type} (world : World Ask Ask.Answer State)
    (sink : Sink) (state : State) :
    (c.make.run world sink state).questions = c.ask?.toList := by
  rw [Run.questions, c.steps_make]
  cases c.ask? <;> rfl

theorem maySend_iff : c.MaySend request ↔ c.ask? = some (.unary request) := by
  constructor
  · rintro ⟨State, world, sink, state, hmem⟩
    rw [c.questions_make] at hmem
    exact Option.mem_toList.mp hmem
  · intro h
    refine ⟨Unit, silence, {}, (), ?_⟩
    rw [c.questions_make]
    exact Option.mem_toList.mpr h

theorem MaySend.path_eq (h : c.MaySend request) : request.path = c.method.remotePath := by
  obtain ⟨path, hpath, hrequest⟩ := Option.map_eq_some_iff.mp (maySend_iff.mp h)
  rw [Endpoint.eq_takeWhile_of_pathAndQuery? hpath] at hrequest
  cases hrequest
  rfl

/-- The log line of a call shows the whole path of its method. -/
theorem shownDatum?_event (method : Method) (payload : List UInt8) (service time : String) :
    Log.shownDatum? ((event method payload).line service time) "method" =
      some (.text method.path) := by
  rw [Log.shownDatum?_line]
  rfl

/-- **Where calls go.** A call that sends a request in some run logs one event and sends that one
request in every run. The event shows the path of the method, and the request goes to that path up
to the first number sign, so to the very path that is shown exactly if neither name of the method
has a number sign. Two calls go to one path exactly if their methods have one path up to there; if
no name has a number sign, exactly if their methods have one path. -/
theorem calls_reach_paths (h : c.MaySend request) :
    (∀ {State : Type} (world : World Ask Ask.Answer State) (sink : Sink) (state : State),
      let r := c.make.run world sink state
      r.questions = [.unary request] ∧ ∃ e, r.events = [e] ∧ ∀ service time,
        Log.shownDatum? (e.line service time) "method" = some (.text c.method.path)) ∧
      request.path = c.method.remotePath ∧
      (request.path = c.method.path ↔ c.method.Unmarked) ∧
      ∀ (c' : Invocation) (request' : Request), c'.MaySend request' →
        (request.path = request'.path ↔ c.method.remotePath = c'.method.remotePath) ∧
        (c.method.Unmarked → c'.method.Unmarked →
          (request.path = request'.path ↔ c.method.path = c'.method.path)) := by
  refine ⟨?_, h.path_eq, ?_, ?_⟩
  · intro State world sink state r
    have hask := maySend_iff.mp h
    refine ⟨?_, event c.method c.payload, ?_, shownDatum?_event c.method c.payload⟩
    · rw [c.questions_make, hask]
      rfl
    · rw [Run.events, c.steps_make, hask]
      rfl
  · rw [h.path_eq, Method.remotePath_eq_path_iff]
  · intro c' request' h'
    rw [h.path_eq, h'.path_eq]
    refine ⟨Iff.rfl, fun hplain hplain' => ?_⟩
    rw [Method.remotePath_eq_path_iff.mpr hplain, Method.remotePath_eq_path_iff.mpr hplain']

/-- A call with a query in its path goes where it is shown to go, and no other such call does. -/
theorem calls_reach_paths_with_query :
    let c : Invocation := ⟨⟨"scripts", "run?é"⟩, [1]⟩
    let c' : Invocation := ⟨⟨"scripts", "run?e"⟩, [1]⟩
    let request : Request := ⟨"/scripts/run?é", ∅, [1]⟩
    let request' : Request := ⟨"/scripts/run?e", ∅, [1]⟩
    c.MaySend request ∧ c'.MaySend request' ∧ c.method.Unmarked ∧ c'.method.Unmarked ∧
      request.path = c.method.path ∧
      (request.path = request'.path ↔ c.method.path = c'.method.path) := by
  intro c c' request request'
  have h : c.MaySend request := maySend_iff.mpr (by cbv)
  have h' : c'.MaySend request' := maySend_iff.mpr (by cbv)
  have hplain : c.method.Unmarked := by decide
  have hplain' : c'.method.Unmarked := by decide
  obtain ⟨-, -, hexact, hother⟩ := calls_reach_paths h
  exact ⟨h, h', hplain, hplain', hexact.mpr hplain, (hother c' request' h').2 hplain hplain'⟩

/-- A number sign cuts the path that a call is sent to, so calls of two methods go to one path. -/
theorem number_sign_cuts_path :
    let c : Invocation := ⟨⟨"scripts", "run#1"⟩, []⟩
    let c' : Invocation := ⟨⟨"scripts", "run#2"⟩, []⟩
    let request : Request := ⟨"/scripts/run", ∅, []⟩
    c.MaySend request ∧ c'.MaySend request ∧ c.method.path = "/scripts/run#1" ∧
      c'.method.path = "/scripts/run#2" ∧ request.path ≠ c.method.path ∧
      c.method.path ≠ c'.method.path := by
  intro c c' request
  exact ⟨maySend_iff.mpr (by cbv), maySend_iff.mpr (by cbv), rfl, rfl, by decide, by decide⟩

end Invocation

end Call.Raw

end ScriptClient
