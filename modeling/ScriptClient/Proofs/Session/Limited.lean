import ScriptClient.Proofs.Session.Story

set_option autoImplicit false

/-! # Sessions in a sink with a limit

A sink with room for some bytes takes the first bytes of what a session writes to a sink without a
limit. If that is all there is, the session comes to its end. If not, the session goes as far as the
first text that does not fit, and asks nothing after it (`Session.run_limited`). So the two runs can
be compared (`Run.LimitedTo`) without a look at the session (`Session.run_limitedTo`). -/

namespace ScriptClient

/-! ## Steps that are cut off -/

/-- The steps go along a story to the first text that does not fit into `room` bytes. After them,
events are all that there is. -/
def Step.CutOff {Ask : Type} (room : Nat) (story steps : List (Step Ask)) : Prop :=
  ∃ before text after, ∃ closing : List Log.Event, story = before ++ .wrote text :: after ∧
    steps = before ++ closing.map .logged ∧
    (Text.Utf8.encode (written before)).length ≤ room ∧
    room < (Text.Utf8.encode (written before ++ text)).length

namespace Step.CutOff

variable {Ask : Type} {room : Nat} {story steps : List (Step Ask)}

theorem head {text : String} (h : room < (Text.Utf8.encode text).length)
    (after : List (Step Ask)) (closing : List Log.Event) :
    CutOff room (.wrote text :: after) (closing.map .logged) := by
  refine ⟨[], text, after, closing, rfl, rfl, Nat.zero_le room, ?_⟩
  rwa [written_nil, String.empty_append]

theorem wrote {text : String} (hfits : (Text.Utf8.encode text).length ≤ room)
    (h : CutOff (room - (Text.Utf8.encode text).length) story steps) :
    CutOff room (.wrote text :: story) (.wrote text :: steps) := by
  obtain ⟨before, last, after, closing, rfl, rfl, hbefore, hlast⟩ := h
  refine ⟨.wrote text :: before, last, after, closing, rfl, rfl, ?_, ?_⟩
  · rw [written_wrote, Text.Utf8.encode_append, List.length_append]
    omega
  · rw [written_wrote, String.append_assoc, Text.Utf8.encode_append, List.length_append]
    omega

theorem cons {step : Step Ask} (hstep : written [step] = "") (h : CutOff room story steps) :
    CutOff room (step :: story) (step :: steps) := by
  obtain ⟨before, last, after, closing, rfl, rfl, hbefore, hlast⟩ := h
  have hsame : written (step :: before) = written before := by
    rw [← List.singleton_append, written_append, hstep, String.empty_append]
  refine ⟨step :: before, last, after, closing, rfl, rfl, ?_, ?_⟩
  · rwa [hsame]
  · rwa [hsame]

/-- Steps that are cut off ask the first of the questions. -/
theorem questions_prefix (h : CutOff room story steps) : questions steps <+: questions story := by
  obtain ⟨before, last, after, closing, rfl, rfl, -, -⟩ := h
  rw [questions_append, questions_append, questions_map_logged, List.append_nil]
  exact List.prefix_append _ _

end Step.CutOff

/-! ## Sinks with a limit -/

/-- How a run in a sink with room for `room` bytes follows the run `whole` of the same session in a
sink without a limit, if the session asks the questions `order`. -/
structure Run.LimitedTo {Ask State α : Type} (room : Nat) (order : List Ask)
    (whole r : Run Ask State α) : Prop where
  /-- A run is ended by its sink exactly if there is more to write than the sink has room for. -/
  ended_iff : r.result = .error .full ↔ room < whole.output.length
  /-- Nothing else ends a run. -/
  only_full : ∀ fault, r.result = .error fault → fault = .full
  output_eq : r.output = whole.output.take room
  asks_in_order : r.questions <+: order
  /-- A run that is ended has no steps after the text that did not fit, but for events. -/
  cut_off : r.result = .error .full → Step.CutOff room whole.steps r.steps
  /-- A run that is not ended asks all questions, and comes to what the whole run comes to. -/
  to_end : ∀ a, r.result = .ok a → whole.result = .ok a ∧ r.questions = order

namespace Session

variable {Ask : Type} {Answer : Ask → Type} {State α : Type}

/-- **Limited sinks.** A sink takes the first bytes of the text of a session, as many as it has room
for. If it has room for all of them, the run is the story of the session; if not, a fault ends it at
the first text that does not fit. -/
theorem run_limited (world : World Ask Answer State) (s : Session Ask Answer α) {flushFails : Bool}
    (hflush : flushFails = false ∨ s.FlushFree) (room : Nat) (state : State) :
    let r := s.run world { room := some room, flushFails := flushFails } state
    let bytes := Text.Utf8.encode (Step.written (s.story world state))
    r.output = bytes.take room ∧
      (bytes.length ≤ room ∧ r.result = .ok (s.outcome world state).1 ∧
          r.steps = s.story world state ∨
        room < bytes.length ∧ r.result = .error .full ∧
          Step.CutOff room (s.story world state) r.steps) := by
  induction s generalizing room state with
  | done a => exact ⟨List.take_nil.symm, .inl ⟨Nat.zero_le room, rfl, rfl⟩⟩
  | write text closing next ih =>
    by_cases hfits : (Text.Utf8.encode text).length ≤ room
    · obtain ⟨houtput, hend⟩ := ih hflush (room - (Text.Utf8.encode text).length) state
      simp only [run, Sink.accept, hfits, decide_true, if_true, story, outcome, Step.written_wrote,
        Text.Utf8.encode_append, List.length_append]
      refine ⟨?_, ?_⟩
      · rw [List.take_append, houtput]
      · rcases hend with ⟨hall, hresult, hsteps⟩ | ⟨hmore, hresult, hcut⟩
        · exact .inl ⟨by omega, hresult, congrArg _ hsteps⟩
        · exact .inr ⟨by omega, hresult, hcut.wrote hfits⟩
    · have hmore : room < (Text.Utf8.encode text).length := Nat.lt_of_not_le hfits
      simp only [run, Sink.accept, hfits, decide_false, Bool.false_eq_true, if_false, story,
        Step.written_wrote, Text.Utf8.encode_append, List.length_append]
      refine ⟨?_, .inr ⟨by omega, trivial, .head hmore _ closing⟩⟩
      rw [List.take_append_of_le_length (Nat.le_of_lt hmore)]
  | flush closing next ih =>
    -- this session is not free of flushes, so the sink has to bear them
    obtain rfl : flushFails = false := hflush.resolve_right id
    exact ih (.inl rfl) room state
  | log event next ih =>
    obtain ⟨houtput, hend⟩ := ih hflush room state
    refine ⟨houtput, ?_⟩
    rcases hend with ⟨hall, hresult, hsteps⟩ | ⟨hmore, hresult, hcut⟩
    · exact .inl ⟨hall, hresult, congrArg _ hsteps⟩
    · exact .inr ⟨hmore, hresult, hcut.cons rfl⟩
  | ask q next ih =>
    have hnext : flushFails = false ∨ (next (world q state).1).FlushFree :=
      hflush.imp_right fun h => h _
    obtain ⟨houtput, hend⟩ := ih _ hnext room (world q state).2
    refine ⟨houtput, ?_⟩
    rcases hend with ⟨hall, hresult, hsteps⟩ | ⟨hmore, hresult, hcut⟩
    · exact .inl ⟨hall, hresult, congrArg _ hsteps⟩
    · exact .inr ⟨hmore, hresult, hcut.cons rfl⟩

/-- A session that always asks the same questions follows its run in a sink without a limit. -/
theorem run_limitedTo (world : World Ask Answer State) {s : Session Ask Answer α} {order : List Ask}
    {flushFails : Bool} (hflush : flushFails = false ∨ s.FlushFree) (room : Nat) (state : State)
    (horder : Step.questions (s.story world state) = order) :
    Run.LimitedTo room order (s.run world {} state)
      (s.run world { room := some room, flushFails := flushFails } state) := by
  obtain ⟨houtput, hend⟩ := run_limited world s hflush room state
  rw [run_eq_story world s rfl (.inl rfl) state]
  generalize s.run world { room := some room, flushFails := flushFails } state = r at houtput hend ⊢
  rcases hend with ⟨hall, hresult, hsteps⟩ | ⟨hmore, hresult, hcut⟩
  · have hquestions : r.questions = order := by rw [Run.questions_eq, hsteps, horder]
    have hfine : ∀ fault, r.result ≠ .error fault := by
      rw [hresult]
      exact nofun
    exact
      { ended_iff := ⟨fun h => absurd h (hfine _), fun h => absurd hall (Nat.not_le_of_lt h)⟩
        only_full := fun fault h => absurd h (hfine fault)
        output_eq := houtput
        asks_in_order := hquestions ▸ List.prefix_refl _
        cut_off := fun h => absurd h (hfine _)
        to_end := fun a h => ⟨hresult.symm.trans h, hquestions⟩ }
  · have hprefix : r.questions <+: order := by
      rw [Run.questions_eq, ← horder]
      exact hcut.questions_prefix
    exact
      { ended_iff := ⟨fun _ => hmore, fun _ => hresult⟩
        only_full := fun fault h => Except.error.inj (h.symm.trans hresult)
        output_eq := houtput
        asks_in_order := hprefix
        cut_off := fun _ => hcut
        to_end := fun a h => nomatch hresult.symm.trans h }

end Session

end ScriptClient
