import ScriptClient.Proofs.Call.Correlation
import ScriptClient.Proofs.Demonstration.Typed
import ScriptClient.Proofs.Demonstration.Whole
import ScriptClient.Proofs.Text.Decimal
import Std.Data.String.ToInt

set_option autoImplicit false

/-! # The two probes of the server's health

The raw probe and the first of the typed calls send the same message to the same path, and show the
reply in two ways: as digits from which it is read back, and as the label of the status in it. Four
statuses have a name for a label, all others their number (`statusLabel_of_not_mem`), and a label
tells which status it stands for (`statusLabel_injective`). `probes_agree` is the main result. -/

namespace ScriptClient

/-! ## Labels -/

theorem ServingStatus.name_injective {s t : ServingStatus} (h : s.name = t.name) : s = t := by
  have hread := congrArg ofName? h
  rwa [ofName?_name, ofName?_name, Option.some.injEq] at hread

/-- A name is not the text of a number. -/
theorem ServingStatus.name_ne_toString (s : ServingStatus) (n : Int) : s.name ≠ toString n := by
  intro h
  have hletter : 'N' ∈ s.name.toList := by cases s <;> decide
  rw [h] at hletter
  rcases Text.Decimal.mem_toString_int hletter with hdigit | hsign
  · exact absurd hdigit (by decide)
  · exact absurd hsign (by decide)

theorem ServingStatus.code_mem (s : ServingStatus) : s.code ∈ ([0, 1, 2, 3] : List Int32) := by
  cases s <;> decide

/-- A number that is no code of a status is its own label. -/
theorem statusLabel_of_not_mem {n : Int32} (h : n ∉ ([0, 1, 2, 3] : List Int32)) :
    statusLabel n = toString n.toInt := by
  refine statusLabel_of_forall_ne fun s heq => h ?_
  rw [heq]
  exact s.code_mem

/-- Different statuses have different labels. -/
theorem statusLabel_injective {m n : Int32} (h : statusLabel m = statusLabel n) : m = n := by
  unfold statusLabel at h
  cases hm : ServingStatus.ofCode? m with
  | some s =>
    cases hn : ServingStatus.ofCode? n with
    | some t =>
      rw [hm, hn] at h
      rw [ServingStatus.ofCode?_eq_some_iff.mp hm, ServingStatus.ofCode?_eq_some_iff.mp hn,
        ServingStatus.name_injective h]
    | none =>
      rw [hm, hn] at h
      exact absurd h (s.name_ne_toString _)
  | none =>
    cases hn : ServingStatus.ofCode? n with
    | some t =>
      rw [hm, hn] at h
      exact absurd h.symm (t.name_ne_toString _)
    | none =>
      rw [hm, hn] at h
      exact Int32.toInt_inj.mp (Int.repr_injective h)

namespace Demonstration

open Call Rpc

/-! ## A peer that answers probes -/

/-- The world that answers a probe of the server's health with `reply`, and all else as before. -/
def answering {State : Type} (world : World Ask Ask.Answer State) (reply : List UInt8) :
    World Ask Ask.Answer State
  | .unary r, state =>
    if r.path = Method.check.path then (.ok reply, (world (.unary r) state).2)
    else world (.unary r) state
  | q, state => world q state

/-- The line that the reply to a probe shows, by the message in it. -/
def replyLine : Option HealthCheckResponse → String
  | some response => Transcript.field "Status" (statusLabel response.status)
  | none => Transcript.failure undecodable

theorem healthText_decodeResponse (reply : List UInt8) :
    healthText (decodeResponse (.ok reply)) = replyLine (Wire.decode reply) := by
  rw [decodeResponse]
  cases (Wire.decode reply : Option HealthCheckResponse) <;> rfl

theorem isOk_decodeResponse (reply : List UInt8) :
    (decodeResponse (.ok reply) : Except Failure HealthCheckResponse).isOk =
      (Wire.decode reply : Option HealthCheckResponse).isSome := by
  rw [decodeResponse]
  cases (Wire.decode reply : Option HealthCheckResponse) <;> rfl

/-- Lines of different statuses differ. -/
theorem replyLine_injective {m n : HealthCheckResponse}
    (h : replyLine (some m) = replyLine (some n)) : m.status = n.status := by
  have hlabels : Transcript.indent ++ "Status" ++ ": " ++ statusLabel m.status ++ "\n" =
      Transcript.indent ++ "Status" ++ ": " ++ statusLabel n.status ++ "\n" := h
  rw [String.append_left_inj, String.append_right_inj] at hlabels
  exact statusLabel_injective hlabels

namespace Outcomes

/-- The sections after that of the probe. -/
def laterSections (o : Outcomes) : String :=
  sectionText 2 "Execute Script" (pageText o.page) ++
    sectionText 3 "Execute POST Request" (formText o.form) ++
    sectionText 4 "Streaming Response" (streamText o.stream)

/-- How many calls after the probe count as failed. -/
def laterFailures (o : Outcomes) : Nat :=
  [o.page.isOk, o.form.isOk, streamOk o.stream].count false

theorem transcript_eq (o : Outcomes) :
    o.transcript =
      opening ++ sectionText 1 "Health Check" (healthText o.health) ++ o.laterSections := by
  simp only [transcript, laterSections, String.append_assoc]

theorem failed_completed (o : Outcomes) :
    (o.completed.foldl Tally.record {}).failed =
      o.laterFailures + if o.health.isOk then 0 else 1 := by
  rw [failed_foldl_record, completed, laterFailures, List.count_cons]
  cases o.health.isOk <;> exact Nat.zero_add _

end Outcomes

section

variable {State : Type} (world : World Ask Ask.Answer State) (state : State)

/-! ## The raw probe -/

/-- What a raw probe writes before it is answered. -/
def probeOpening (bindings : Bool) : String :=
  probeReason bindings ++ Transcript.blank ++
    Transcript.line "Attempting raw gRPC health check..." ++ Transcript.blank

theorem run_probe (bindings flushFails : Bool) (reply : List UInt8) :
    let r := (probe bindings).run (answering world reply) { flushFails := flushFails } state
    r.result = .ok { succeeded := 1 } ∧
      r.output = Text.Utf8.encode (probeOpening bindings ++
        Transcript.line ("Raw response: " ++ String.ofList (Text.Hex.ofBytes reply))) ∧
      r.questions = [.unary probeRequest] := by
  intro r
  have hrun : r = _ :=
    Session.run_eq_story (answering world reply) (probe bindings) rfl
      (.inr (flushFree_probe bindings)) state
  obtain ⟨hwritten, hquestions⟩ := probe_story (answering world reply) state bindings
  have hreply : (answering world reply (.unary probeRequest) state).1 = .ok reply := rfl
  rw [hreply] at hwritten
  have houtcome : ((probe bindings).outcome (answering world reply) state).1 =
      { succeeded := 1 } := by
    rw [probe, unary_check]
    rfl
  refine ⟨?_, ?_, ?_⟩
  · rw [hrun, houtcome]
  · rw [hrun, hwritten]
    rfl
  · rw [Run.questions_eq, hrun, hquestions]

/-! ## The typed calls -/

variable (client : Client)

/-- Whether a question is no probe of the server's health. -/
def NoProbe (q : Ask) : Prop :=
  ∀ r, q = .unary r → r.path ≠ Method.check.path

theorem answering_of_noProbe (reply : List UInt8) {q : Ask} (h : NoProbe q) :
    answering world reply q = world q := by
  funext state
  cases q with
  | unary r => exact if_neg (h r rfl)
  | _ => rfl

/-- Only the call that probes the server's health sends a probe. -/
theorem asksOnly_noProbe {q : Api} (h : q.method ≠ .check) : (client.call q).AsksOnly NoProbe := by
  cases q with
  | check message => exact absurd rfl h
  | execute message =>
    refine ⟨nofun, fun _ => ⟨nofun, fun _ => ⟨?_, fun _ => trivial⟩⟩⟩
    rintro r ⟨⟩
    show Method.execute.path ≠ Method.check.path
    decide
  | executeStream message =>
    refine ⟨nofun, fun _ => ⟨nofun, fun _ => ⟨nofun, fun reply => ?_⟩⟩⟩
    cases reply <;> trivial

theorem through_check (reply : List UInt8) (message : HealthCheckRequest) :
    Session.through client.call (answering world reply) (.check message) state =
      (decodeResponse (.ok reply),
        (Session.through client.call world (.check message) state).2) :=
  rfl

/-- The reply to probes decides what the first call comes to, and nothing else. -/
theorem outcomes_answering (reply : List UInt8) :
    Outcomes.ofWorld (Session.through client.call (answering world reply)) state =
      { Outcomes.ofWorld (Session.through client.call world) state with
        health := decodeResponse (.ok reply) } := by
  have hsame : ∀ q : Api, q.method ≠ .check →
      Session.through client.call (answering world reply) q =
        Session.through client.call world q := by
    intro q hq
    funext state'
    exact (asksOnly_noProbe client hq).outcome_eq (fun _ => answering_of_noProbe world reply) state'
  have hexecute : Method.execute ≠ .check := by decide
  have hstream : Method.executeStream ≠ .check := by decide
  simp only [Outcomes.ofWorld, Outcomes.answered, through_check, hsame (.execute _) hexecute,
    hsame (.executeStream _) hstream]

/-- The typed calls of a client, one request each. -/
theorem run_fourCalls (flushFails : Bool) :
    let o := Outcomes.ofWorld (Session.through client.call world) state
    let r := (fourCalls.lower client.call).run world { flushFails := flushFails } state
    r.result = .ok (o.completed.foldl Tally.record {}) ∧
      r.output = Text.Utf8.encode o.transcript ∧
      List.Forall₂ (fun q request => request.path = q.method.path ∧
          ∃ header, request.payload = q.payload header)
        Outcomes.questions (r.questions.filterMap Ask.request?) := by
  intro o r
  obtain ⟨hresult, houtput, -, -⟩ := Session.run_lower world client.quiet_call fourCalls
    { flushFails := flushFails } state
  obtain ⟨hcompleted, htranscript, hquestions⟩ :=
    run_fourCalls_eq (Session.through client.call world) state flushFails
  refine ⟨?_, ?_, ?_⟩
  · rw [hresult, hcompleted]
  · rw [houtput, htranscript]
  · have hcalls := Session.forall₂_questions_lower world
      (fun q request => request.path = q.method.path ∧ ∃ header, request.payload = q.payload header)
      Ask.request? client.quiet_call ?_ fourCalls { flushFails := flushFails } state
    · rwa [hquestions] at hcalls
    · intro q state'
      obtain ⟨t, bits, hsent⟩ := client.call_sends world state' q
      exact ⟨_, ⟨rfl, _, rfl⟩, hsent⟩

end

/-- **The two probes.** Whatever bytes a peer answers a probe with, the raw probe completes and
shows digits from which they are read back. The typed calls show the label of the status in the
message that the bytes hold; if they hold none, one more call has failed, and what follows is the
same. Both send the same empty message to the same path. The labels of the first four statuses are
their names, the label of every other one is its number, and different statuses are shown by
different lines. -/
theorem probes_agree {State : Type} (world : World Ask Ask.Answer State) (state : State)
    (client : Client) (bindings flushFails : Bool) :
    let others := Outcomes.ofWorld (Session.through client.call world) state
    (∀ reply : List UInt8,
      let peer := answering world reply
      let raw := (probe bindings).run peer { flushFails := flushFails } state
      let typed := (fourCalls.lower client.call).run peer { flushFails := flushFails } state
      let response : Option HealthCheckResponse := Wire.decode reply
      (raw.result = .ok { succeeded := 1, failed := 0 } ∧
        ∃ digits : List Char,
          raw.output = Text.Utf8.encode
            (probeOpening bindings ++ "Raw response: " ++ String.ofList digits ++ "\n") ∧
          digits.all Text.Hex.isLower ∧ Text.Hex.toBytes? digits = some reply) ∧
      (typed.output = Text.Utf8.encode (Outcomes.opening ++ "1. Health Check:\n" ++
          replyLine response ++ "\n" ++ others.laterSections) ∧
        ∃ tally, typed.result = .ok tally ∧ tally.succeeded + tally.failed = 4 ∧
          tally.failed = others.laterFailures + if response.isSome then 0 else 1) ∧
      ∃ probe check page form stream,
        raw.questions.filterMap Ask.request? = [probe] ∧
          typed.questions.filterMap Ask.request? = [check, page, form, stream] ∧
          check.path = probe.path ∧ check.payload = probe.payload ∧ probe.payload = []) ∧
    (statusLabel 0 = "UNKNOWN" ∧ statusLabel 1 = "SERVING" ∧ statusLabel 2 = "NOT_SERVING" ∧
      statusLabel 3 = "SERVICE_UNKNOWN" ∧
      ∀ n : Int32, n ∉ ([0, 1, 2, 3] : List Int32) → statusLabel n = toString n.toInt) ∧
    (∀ m : HealthCheckResponse,
      replyLine (some m) = "   Status: " ++ statusLabel m.status ++ "\n") ∧
    replyLine none = "   Error: " ++ undecodable.display ++ "\n" ∧
    ∀ m n : HealthCheckResponse, m.status ≠ n.status →
      replyLine (some m) ≠ replyLine (some n) := by
  intro others
  refine ⟨?_, ⟨statusLabel_code .unknown, statusLabel_code .serving, statusLabel_code .notServing,
    statusLabel_code .serviceUnknown, fun n => statusLabel_of_not_mem⟩, fun m => rfl, rfl,
    fun m n hne heq => hne (replyLine_injective heq)⟩
  intro reply peer raw typed response
  obtain ⟨hraw, hrawOutput, hrawQuestions⟩ := run_probe world state bindings flushFails reply
  obtain ⟨htyped, htypedOutput, hcalls⟩ := run_fourCalls peer state client flushFails
  rw [outcomes_answering world state client reply] at htyped htypedOutput
  refine ⟨⟨hraw, Text.Hex.ofBytes reply, ?_, ?_, Text.Hex.toBytes?_ofBytes reply⟩,
    ⟨?_, _, htyped, ?_, ?_⟩, ?_⟩
  · rw [hrawOutput, Transcript.line]
    simp only [String.append_assoc]
  · exact List.all_eq_true.mpr fun _ => Text.Hex.isLower_of_mem_ofBytes
  · rw [htypedOutput, Outcomes.transcript_eq, healthText_decodeResponse]
    simp only [sectionText, String.append_assoc]
    rfl
  · exact total_foldl_record _ {}
  · rw [Outcomes.failed_completed, isOk_decodeResponse]
    rfl
  · rw [hrawQuestions]
    obtain ⟨check, rest, ⟨hpath, header, hpayload⟩, hrest, hrequests⟩ :=
      List.forall₂_cons_left_iff.mp hcalls
    obtain ⟨page, form, stream, rfl⟩ := List.length_eq_three.mp hrest.length_eq.symm
    exact ⟨probeRequest, check, page, form, stream, rfl, hrequests, hpath, hpayload, rfl⟩

/-- A world that refuses every request. -/
def refusing : World Ask Ask.Answer Unit
  | .tick, state => (⟨0, 0⟩, state)
  | .random, state => (⟨0, 0⟩, state)
  | .unary _, state => (.error ⟨.unavailable, "refused"⟩, state)
  | .streaming _, state => (.error ⟨.unavailable, "refused"⟩, state)

/-- A status with a name and one without, behind an unknown field. -/
theorem probes_agree_with_labels :
    let client : Client := ⟨⟨"0af7651916cd43dd8448eb211c80319c", "b7ad6b7169203331", 1⟩⟩
    let output := fun reply =>
      ((fourCalls.lower client.call).run (answering refusing reply) {} ()).output
    (∃ rest, output [8, 1] = Text.Utf8.encode
        (Outcomes.opening ++ "1. Health Check:\n" ++ "   Status: SERVING\n" ++ "\n" ++ rest)) ∧
      (42 : Int32) ∉ ([0, 1, 2, 3] : List Int32) ∧
      (∃ rest, output [16, 7, 8, 42] = Text.Utf8.encode
        (Outcomes.opening ++ "1. Health Check:\n" ++ "   Status: 42\n" ++ "\n" ++ rest)) ∧
      (1 : Int32) ≠ 42 ∧ replyLine (some ⟨1⟩) ≠ replyLine (some ⟨42⟩) := by
  intro client output
  obtain ⟨hreplies, ⟨-, hserving, -, -, hother⟩, hline, -, hdifferent⟩ :=
    probes_agree refusing () client true false
  have hshown : ∀ (reply : List UInt8) (status : Int32),
      (Wire.decode reply : Option HealthCheckResponse) = some ⟨status⟩ →
        ∃ rest, output reply = Text.Utf8.encode (Outcomes.opening ++ "1. Health Check:\n" ++
          ("   Status: " ++ statusLabel status ++ "\n") ++ "\n" ++ rest) := by
    intro reply status hdecode
    have houtput := (hreplies reply).2.1.1
    rw [hdecode, hline] at houtput
    exact ⟨_, houtput⟩
  have hnamed := hshown [8, 1] 1 (by decide +kernel)
  rw [hserving] at hnamed
  have hcode : (42 : Int32) ∉ ([0, 1, 2, 3] : List Int32) := by decide
  have hunnamed := hshown [16, 7, 8, 42] 42 (by decide +kernel)
  rw [hother 42 hcode] at hunnamed
  exact ⟨hnamed, hcode, hunnamed, by decide, hdifferent _ _ (by decide)⟩

end Demonstration

end ScriptClient
