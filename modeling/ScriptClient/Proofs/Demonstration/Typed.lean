import ScriptClient.Proofs.Demonstration.Sections
import ScriptClient.Proofs.Text.Decimal

set_option autoImplicit false

/-! # The typed demonstration

A run of the four typed calls asks the same four questions whatever it is answered, and its
transcript is put together from four sections with one outcome each. The tally counts a failed call
once, and a stream that is opened and breaks off once more. `typed_demonstration` is the main
result. -/

namespace ScriptClient.Demonstration

open Call Rpc

/-! ## The tally -/

theorem total_foldl_record (oks : List Bool) (t : Tally) :
    (oks.foldl Tally.record t).total = t.total + oks.length := by
  induction oks generalizing t with
  | nil => rfl
  | cons ok oks ih =>
    rw [List.foldl_cons, ih, Tally.total_record, List.length_cons]
    omega

theorem failed_foldl_record (oks : List Bool) (t : Tally) :
    (oks.foldl Tally.record t).failed = t.failed + oks.count false := by
  induction oks generalizing t with
  | nil => rfl
  | cons ok oks ih =>
    rw [List.foldl_cons, ih]
    cases ok with
    | true => simp [Tally.record]
    | false =>
      simp only [Tally.record, Bool.false_eq_true, if_false, List.count_cons_self]
      omega

/-! ## The section of the stream -/

/-- The chunks that are delivered of a stream. -/
def deliveredChunks (items : List (Except Failure StreamChunk)) : List StreamChunk :=
  (deliveredItems items).filterMap Except.toOption

/-- The error that stops the stream of a list of items, if one does. -/
def streamError? (items : List (Except Failure StreamChunk)) : Option Failure :=
  Bounded.breach? StreamChunk.isFinal Bounded.defaultLimit items

/-- The line of an error, if there is one. -/
def errorText : Option Failure → String
  | none => ""
  | some f => Transcript.failure f

theorem deliveredItems_eq (items : List (Except Failure StreamChunk)) :
    deliveredItems items =
      (deliveredChunks items).map .ok ++ (streamError? items).toList.map .error :=
  (Bounded.delivered_eq StreamChunk.isFinal Bounded.defaultLimit items).1

theorem isSome_streamError?_iff (items : List (Except Failure StreamChunk)) :
    (streamError? items).isSome ↔ streamStop? items = some .failed :=
  (Bounded.delivered_eq StreamChunk.isFinal Bounded.defaultLimit items).2

/-- A stream shows a line for each chunk that is delivered, and one for the error that stops it. -/
theorem streamText_ok (items : List (Except Failure StreamChunk)) :
    streamText (.ok items) =
      String.join ((deliveredChunks items).map chunkLine) ++ errorText (streamError? items) := by
  have hchunks : itemText ∘ .ok = chunkLine := rfl
  rw [streamText, deliveredItems_eq, List.map_append, String.join_append, List.map_map, hchunks]
  cases streamError? items with
  | none => rfl
  | some f =>
    show _ ++ String.join [Transcript.failure f] = _ ++ Transcript.failure f
    rw [String.join_cons, String.join_nil, String.append_empty]

/-- A stream is counted as completed unless an error stops it. -/
theorem streamOk_ok (items : List (Except Failure StreamChunk)) :
    streamOk (.ok items) = !decide (streamStop? items = some .failed) := by
  have hchunks : ∀ chunks : List StreamChunk,
      (chunks.map .ok : List (Except Failure StreamChunk)).all Except.isOk = true := by
    intro chunks
    rw [List.all_map, List.all_eq_true]
    intro chunk _
    rfl
  rw [streamOk, deliveredItems_eq, List.all_append, hchunks, Bool.true_and]
  have herror := isSome_streamError?_iff items
  cases hstop : streamError? items with
  | none =>
    have hfine : ¬ streamStop? items = some .failed := by
      rw [← herror, hstop]
      exact Bool.false_ne_true
    simp [hfine]
  | some f =>
    have hfailed : streamStop? items = some .failed := herror.mp (Option.isSome_of_eq_some hstop)
    simp [hfailed, Except.isOk, Except.toBool]

/-- The items after the stop point of a stream make no difference, unless it stops because there
are no more. -/
theorem stream_append (items : List (Except Failure StreamChunk)) :
    streamStop? items = some .exhausted ∨
      ∀ rest, streamText (.ok (deliveredItems items ++ rest)) = streamText (.ok items) ∧
        streamOk (.ok (deliveredItems items ++ rest)) = streamOk (.ok items) := by
  by_cases h : streamStop? items = some .exhausted
  · exact .inl h
  · refine .inr fun rest => ?_
    have hsame : deliveredItems (deliveredItems items ++ rest) = deliveredItems items :=
      Bounded.delivered_append StreamChunk.isFinal Bounded.defaultLimit h rest
    exact ⟨by rw [streamText, hsame, streamText], by rw [streamOk, hsame, streamOk]⟩

/-- What is shown of a chunk is one line. -/
theorem chunkLine_eq (chunk : StreamChunk) :
    let text := "   Chunk " ++ toString chunk.sequence.toNat ++ ": " ++
      toString chunk.data.length ++ " bytes, final=" ++ toString chunk.isFinal
    chunkLine chunk = text ++ "\n" ∧ '\n' ∉ text.toList := by
  intro text
  have hnumber : ∀ n : Nat, '\n' ∉ (toString n).toList := by
    intro n hmem
    exact absurd (Text.Decimal.isDigit_of_mem_toString hmem) (by decide)
  have hflag : ∀ b : Bool, '\n' ∉ (toString b).toList := by decide
  constructor
  · show Transcript.indent ++ ("Chunk " ++ _) ++ ": " ++ _ ++ "\n" = _
    simp only [text, String.append_assoc]
    rfl
  · simp only [text, String.toList_append, List.mem_append, not_or]
    exact ⟨⟨⟨⟨⟨by decide, hnumber _⟩, by decide⟩, hnumber _⟩, by decide⟩, hflag _⟩

theorem errorText_some (f : Failure) :
    errorText (some f) = "   Error: " ++ f.message ++ " (code: " ++ f.code.name ++ ")\n" := by
  show Transcript.indent ++ "Error" ++ ": " ++ f.display ++ "\n" = _
  simp only [Failure.display, String.append_assoc]
  rfl

/-! ## The whole run -/

/-- The transcript, with its fixed lines written out. -/
theorem transcript_text (o : Outcomes) :
    o.transcript = "Using generated proto bindings\n" ++ "\n" ++
      ("1. Health Check:\n" ++ healthText o.health ++ "\n") ++
      ("2. Execute Script:\n" ++ pageText o.page ++ "\n") ++
      ("3. Execute POST Request:\n" ++ formText o.form ++ "\n") ++
      ("4. Streaming Response:\n" ++ streamText o.stream ++ "\n") :=
  rfl

theorem count_completed (o : Outcomes) :
    o.completed.count false = o.answers.count false + o.breaks.toNat := by
  obtain ⟨health, page, form, stream⟩ := o
  -- only a stream can be answered and still count as failed
  have hstream : [streamOk stream].count false =
      [stream.isOk].count false + (Outcomes.breaks ⟨health, page, form, stream⟩).toNat := by
    cases stream with
    | error f => rfl
    | ok items =>
      rw [streamOk_ok, Outcomes.breaks]
      by_cases h : streamStop? items = some .failed
      · simp [h, Except.isOk, Except.toBool]
      · simp [h, Except.isOk, Except.toBool]
  have hsplit : ∀ ok : Bool, [health.isOk, page.isOk, form.isOk, ok].count false =
      [health.isOk, page.isOk, form.isOk].count false + [ok].count false := by
    intro ok
    show ([health.isOk, page.isOk, form.isOk] ++ [ok]).count false = _
    exact List.count_append
  rw [Outcomes.completed, Outcomes.answers, hsplit, hsplit, hstream, Nat.add_assoc]

/-- **The typed demonstration.** Whatever the four calls come to, a run that is not cut short by its
transcript asks the four questions in order, and writes the opening and a section for each outcome.
Every call is counted: as failed are counted the calls that failed, and a stream that was opened and
then stopped at an error. The section of a stream has a line for each chunk up to the stop point and
one for the error that stops it, and does not depend on the items after the stop point. -/
theorem typed_demonstration {State : Type} (world : World Api Api.Outcome State) (state : State)
    (flushFails : Bool) :
    let o := Outcomes.ofWorld world state
    let r := fourCalls.run world { flushFails := flushFails } state
    r.questions = Outcomes.questions ∧
      r.output = Text.Utf8.encode o.transcript ∧
      (∃ tally, r.result = .ok tally ∧ tally.succeeded + tally.failed = 4 ∧
        tally.failed = o.answers.count false + o.breaks.toNat) ∧
      (∀ items, streamText (.ok items) =
        String.join ((deliveredChunks items).map chunkLine) ++ errorText (streamError? items)) ∧
      (∀ items, (streamError? items).isSome ↔ streamStop? items = some .failed) ∧
      (∀ items, streamStop? items = some .exhausted ∨
        ∀ rest, streamText (.ok (deliveredItems items ++ rest)) = streamText (.ok items) ∧
          streamOk (.ok (deliveredItems items ++ rest)) = streamOk (.ok items)) ∧
      o.transcript = "Using generated proto bindings\n" ++ "\n" ++
        ("1. Health Check:\n" ++ healthText o.health ++ "\n") ++
        ("2. Execute Script:\n" ++ pageText o.page ++ "\n") ++
        ("3. Execute POST Request:\n" ++ formText o.form ++ "\n") ++
        ("4. Streaming Response:\n" ++ streamText o.stream ++ "\n") ∧
      (∀ chunk : StreamChunk,
        let text := "   Chunk " ++ toString chunk.sequence.toNat ++ ": " ++
          toString chunk.data.length ++ " bytes, final=" ++ toString chunk.isFinal
        chunkLine chunk = text ++ "\n" ∧ '\n' ∉ text.toList) ∧
      errorText none = "" ∧
      ∀ f : Failure,
        errorText (some f) = "   Error: " ++ f.message ++ " (code: " ++ f.code.name ++ ")\n" := by
  intro o r
  obtain ⟨hresult, houtput, hquestions⟩ := run_fourCalls_eq world state flushFails
  refine ⟨hquestions, houtput, ⟨_, hresult, total_foldl_record o.completed {}, ?_⟩, streamText_ok,
    isSome_streamError?_iff, stream_append, transcript_text o, chunkLine_eq, rfl, errorText_some⟩
  rw [failed_foldl_record, count_completed]
  exact Nat.zero_add _

end ScriptClient.Demonstration
