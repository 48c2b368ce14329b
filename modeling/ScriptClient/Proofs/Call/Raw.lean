import ScriptClient.Call.Raw
import ScriptClient.Proofs.Endpoint.PathAndQuery
import ScriptClient.Proofs.Session.Quiet

set_option autoImplicit false

/-! # Sequences of raw calls

A raw call sends one request with its payload, or none if its path is not one that a request can
have (`Invocation.ask?`), and only a request takes a reply. So what a call in a sequence comes to is
decided by the call itself and by the number of requests before it (`raw_calls_answered`). -/

namespace ScriptClient.Call.Raw

open Rpc

theorem received_eq (reply : Except Failure (List UInt8)) : received reply = reply := by
  cases reply with
  | error f => rfl
  | ok frame => rw [received, drain_eq]

/-- A call with a path that a request can have sends its payload, and comes to the reply. -/
theorem unary_of_path {method : Method} {path : List Char} (payload : List UInt8)
    (h : Endpoint.pathAndQuery? method.path.toList = some path) :
    unary method payload =
      .log (event method payload) (.request (Ask.unary ⟨String.ofList path, ∅, payload⟩)) := by
  have hreceived : (fun reply => Session.done (received reply) :
      Except Failure (List UInt8) → Session Ask Ask.Answer (Except Failure (List UInt8))) =
        Session.done :=
    funext fun reply => congrArg Session.done (received_eq reply)
  rw [unary, h]
  exact congrArg
    (fun next => Session.log (event method payload)
      (Session.ask (Ask.unary ⟨String.ofList path, ∅, payload⟩) next)) hreceived

theorem unary_of_no_path {method : Method} (payload : List UInt8)
    (h : Endpoint.pathAndQuery? method.path.toList = none) :
    unary method payload = .done (.error invalidPath) := by
  rw [unary, h]

/-! ## Calls -/

/-- A raw call of a method. -/
structure Invocation where
  method : Method
  payload : List UInt8

namespace Invocation

/-- What the call asks of the world, if its path is one that a request can have. -/
def ask? (c : Invocation) : Option Ask :=
  (Endpoint.pathAndQuery? c.method.path.toList).map fun path =>
    .unary ⟨String.ofList path, ∅, c.payload⟩

theorem ask?_eq_some_iff {c : Invocation} {q : Ask} :
    c.ask? = some q ↔ ∃ path, Endpoint.HoldsPath c.method.path.toList path ∧
      q = .unary ⟨String.ofList path, ∅, c.payload⟩ := by
  rw [ask?, Option.map_eq_some_iff]
  refine exists_congr fun path => ?_
  rw [Endpoint.pathAndQuery?_eq_some_iff, eq_comm (a := q)]

/-- Makes the call. -/
def make (c : Invocation) : Session Ask Ask.Answer (Except Failure (List UInt8)) :=
  unary c.method c.payload

theorem quiet_make (c : Invocation) : c.make.Quiet := by
  rw [make]
  cases h : Endpoint.pathAndQuery? c.method.path.toList with
  | none =>
    rw [unary_of_no_path _ h]
    trivial
  | some path =>
    rw [unary_of_path _ h]
    exact fun _ => trivial

end Invocation

/-- Makes calls one after the other. -/
def makeAll : List Invocation →
    Session Ask Ask.Answer (List (Except Failure (List UInt8)))
  | [] => .done []
  | c :: rest => do
    let outcome ← c.make
    let outcomes ← makeAll rest
    return outcome :: outcomes

theorem quiet_makeAll (calls : List Invocation) : (makeAll calls).Quiet := by
  induction calls with
  | nil => trivial
  | cons c rest ih =>
    exact c.quiet_make.bind fun _ => ih.bind fun _ => trivial

/-! ## Scripted replies -/

section

variable (replies : Nat → Except Failure (List UInt8)) (other : World Ask Ask.Answer Nat)

/-- The world of a peer that answers the requests of raw calls by `replies` in their order, and
whatever else it is asked like `other`. What is remembered is how many replies were used. -/
def scripted : World Ask Ask.Answer Nat
  | .unary _, used => (replies used, used + 1)
  | .tick, used => other .tick used
  | .random, used => other .random used
  | .streaming r, used => other (.streaming r) used

/-- How many of the calls before place `i` send a request. -/
def sentBefore (calls : List Invocation) (i : Nat) : Nat :=
  ((calls.take i).filterMap Invocation.ask?).length

/-- What a call comes to when `used` replies were used before it. -/
def Invocation.outcomeAt (c : Invocation) (used : Nat) : Except Failure (List UInt8) :=
  if c.ask?.isSome then replies used else .error invalidPath

/-- One call: it asks what it asks, which is nothing if it is refused, and uses up a reply only if
it asks. -/
theorem make_story (c : Invocation) (used : Nat) :
    c.make.outcome (scripted replies other) used =
        (c.outcomeAt replies used, used + c.ask?.toList.length) ∧
      Step.questions (c.make.story (scripted replies other) used) = c.ask?.toList := by
  cases h : Endpoint.pathAndQuery? c.method.path.toList with
  | none =>
    have hask : c.ask? = none := Option.map_eq_none_iff.mpr h
    rw [Invocation.make, unary_of_no_path _ h, Invocation.outcomeAt, hask]
    exact ⟨rfl, rfl⟩
  | some path =>
    have hask : c.ask? = some (.unary ⟨String.ofList path, ∅, c.payload⟩) := by
      rw [Invocation.ask?, h, Option.map_some]
    rw [Invocation.make, unary_of_path _ h, Invocation.outcomeAt, hask]
    exact ⟨rfl, rfl⟩

/-- All calls: what they ask stands in their order, and each comes to what it does alone after the
requests before it. -/
theorem makeAll_story (calls : List Invocation) (used : Nat) :
    let o := (makeAll calls).outcome (scripted replies other) used
    o.1.length = calls.length ∧
      (∀ (i : Nat) (c : Invocation), calls[i]? = some c →
        o.1[i]? = some (c.outcomeAt replies (used + sentBefore calls i))) ∧
      o.2 = used + (calls.filterMap Invocation.ask?).length ∧
      Step.questions ((makeAll calls).story (scripted replies other) used) =
        calls.filterMap Invocation.ask? := by
  induction calls generalizing used with
  | nil => exact ⟨rfl, nofun, rfl, rfl⟩
  | cons c rest ih =>
    obtain ⟨houtcome, hquestions⟩ := make_story replies other c used
    obtain ⟨hlength, heach, hused, hrest⟩ := ih (used + c.ask?.toList.length)
    have hasks (cs : List Invocation) : (c :: cs).filterMap Invocation.ask? =
        c.ask?.toList ++ cs.filterMap Invocation.ask? := by
      cases h : c.ask? <;> simp [h]
    simp only [makeAll, Session.bind_eq, Session.outcome_bind, Session.story_bind, houtcome,
      Session.pure_eq_done, Session.outcome_done, Session.story_done, List.append_nil,
      Step.questions_append, hquestions, hrest, hasks, hused, List.length_append]
    refine ⟨congrArg Nat.succ hlength, ?_, by omega, trivial⟩
    intro i c' hc
    cases i with
    | zero =>
      obtain rfl : c = c' := Option.some.inj hc
      rfl
    | succ i =>
      have hbefore : sentBefore (c :: rest) (i + 1) =
          c.ask?.toList.length + sentBefore rest i := by
        rw [sentBefore, List.take_succ_cons, hasks, List.length_append, sentBefore]
      rw [hbefore, ← Nat.add_assoc]
      exact heach i c' hc

/-- **Sequences of raw calls.** Whatever calls are made one after the other, and whatever the peer
replies: a call whose path is not one that a request can have fails as an internal failure that
tells so, sends nothing and takes no reply. Every other call sends one request with its payload, and
comes to the next reply, be it bytes or a failure. So the outcome of a call is decided by the call
and by how many of the calls before it sent a request. -/
theorem raw_calls_answered (calls : List Invocation) (sink : Sink) (used : Nat) :
    let r := (makeAll calls).run (scripted replies other) sink used
    (∃ outcomes, r.result = .ok outcomes ∧ outcomes.length = calls.length ∧
      ∀ (i : Nat) (c : Invocation), calls[i]? = some c → outcomes[i]? =
        some (if c.ask?.isSome then replies (used + sentBefore calls i)
          else .error invalidPath)) ∧
      r.questions = calls.filterMap Invocation.ask? ∧
      r.state = used + r.questions.length ∧
      r.output = [] ∧
      (∀ (c : Invocation) q, c.ask? = some q ↔
        ∃ path, Endpoint.HoldsPath c.method.path.toList path ∧
          q = .unary ⟨String.ofList path, ∅, c.payload⟩) ∧
      invalidPath.code = .internal ∧
      ∃ detail, invalidPath.message = "invalid method path: " ++ detail := by
  intro r
  obtain ⟨hlength, heach, hused, hquestions⟩ := makeAll_story replies other calls used
  have hr : r = _ := (quiet_makeAll calls).run_eq (scripted replies other) sink used
  have hasked : r.questions = calls.filterMap Invocation.ask? := by
    rw [Run.questions_eq, hr, hquestions]
  refine ⟨⟨_, congrArg Run.result hr, hlength, heach⟩, hasked, ?_, congrArg Run.output hr,
    fun c q => Invocation.ask?_eq_some_iff, rfl, "invalid uri character", rfl⟩
  rw [hasked, hr]
  exact hused

end

end ScriptClient.Call.Raw
