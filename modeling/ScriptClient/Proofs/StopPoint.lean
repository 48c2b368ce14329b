import ScriptClient.Bounded

set_option autoImplicit false

/-! # Where bounded streams stop

A bounded stream polls the stream behind it up to a **stop point**: the first outcome that is a
final chunk, an error, the end, or the chunk that reaches the limit. The stop point is a fact about
the outcomes of the stream behind alone (`Bounded.reasonAt`, `Bounded.stopBefore?`), and so is the
state after any number of polls (`Bounded.reference`). The main step is `Bounded.poll_reference`:
one poll leads from a reference state to the next one. -/

namespace ScriptClient

/-- Whether a poll gave a chunk. -/
def Poll.isChunk {τ ε : Type} : Poll τ ε → Bool
  | .chunk _ => true
  | _ => false

namespace Bounded

variable {σ τ ε : Type}

/-! ## The outcomes of the stream behind -/

/-- The stream behind after `n` polls of it. -/
def sourceAfter (next : σ → Poll τ ε × σ) (source : σ) : (n : Nat) → σ
  | 0 => source
  | n + 1 => (next (sourceAfter next source n)).2

/-- What poll number `n` of the stream behind gives. Numbers start at 0. -/
def outcomeAt (next : σ → Poll τ ε × σ) (source : σ) (n : Nat) : Poll τ ε :=
  (next (sourceAfter next source n)).1

/-- The stream behind with the number of polls it has seen. -/
def counting (next : σ → Poll τ ε × σ) (s : σ × Nat) : Poll τ ε × (σ × Nat) :=
  ((next s.1).1, ((next s.1).2, s.2 + 1))

theorem sourceAfter_counting (next : σ → Poll τ ε × σ) (source : σ) (n : Nat) :
    sourceAfter (counting next) (source, 0) n = (sourceAfter next source n, n) := by
  induction n with
  | zero => rfl
  | succ n ih => rw [sourceAfter, ih]; rfl

theorem outcomeAt_counting (next : σ → Poll τ ε × σ) (source : σ) :
    outcomeAt (counting next) (source, 0) = outcomeAt next source := by
  funext n
  rw [outcomeAt, sourceAfter_counting]
  rfl

/-! ## Stop points -/

/-- How many of the first `n` outcomes are chunks. -/
def chunksIn (script : Nat → Poll τ ε) (n : Nat) : Nat :=
  (List.range n).countP fun i => (script i).isChunk

theorem chunksIn_succ (script : Nat → Poll τ ε) (n : Nat) :
    chunksIn script (n + 1) = chunksIn script n + if (script n).isChunk then 1 else 0 := by
  rw [chunksIn, List.range_succ, List.countP_append, ← chunksIn]
  simp only [List.countP_cons, List.countP_nil, Nat.zero_add]

variable (isFinal : τ → Bool) (limit : Nat)

/-- Why a stream with a limit stops at outcome `n`, if it comes to that outcome and stops there. A
final chunk counts as such even when it reaches the limit. -/
def reasonAt (script : Nat → Poll τ ε) (n : Nat) : Option StreamEnd :=
  match script n with
  | .pending => none
  | .chunk c =>
    if isFinal c then some .final
    else if chunksIn script (n + 1) = max limit 1 then some .limit
    else none
  | .failed _ => some .failed
  | .ended => some .exhausted

/-- The stop point, if it is among the first `n` outcomes. -/
def stopBefore? (script : Nat → Poll τ ε) (n : Nat) : Option Nat :=
  (List.range n).find? fun i => (reasonAt isFinal limit script i).isSome

/-- How many of `n` polls reach the stream behind: all of them up to the stop point. -/
def reached (script : Nat → Poll τ ε) (n : Nat) : Nat :=
  match stopBefore? isFinal limit script n with
  | none => n
  | some k => k + 1

/-- Why the stream has stopped after `n` polls, if it has. -/
def stopReason? (script : Nat → Poll τ ε) (n : Nat) : Option StreamEnd :=
  (stopBefore? isFinal limit script n).bind (reasonAt isFinal limit script)

theorem stopBefore?_succ (script : Nat → Poll τ ε) (n : Nat) :
    stopBefore? isFinal limit script (n + 1) =
      (stopBefore? isFinal limit script n).or
        (if (reasonAt isFinal limit script n).isSome then some n else none) := by
  rw [stopBefore?, List.range_succ, List.find?_append, ← stopBefore?]
  congr 1
  by_cases h : (reasonAt isFinal limit script n).isSome <;> simp [h]

theorem stopBefore?_eq_none_iff {script : Nat → Poll τ ε} {n : Nat} :
    stopBefore? isFinal limit script n = none ↔
      ∀ i < n, reasonAt isFinal limit script i = none := by
  simp only [stopBefore?, List.find?_eq_none, List.mem_range, Option.isSome_iff_ne_none, ne_eq,
    Decidable.not_not]

theorem stopBefore?_eq_some_iff {script : Nat → Poll τ ε} {n k : Nat} :
    stopBefore? isFinal limit script n = some k ↔
      k < n ∧ (reasonAt isFinal limit script k).isSome ∧
        ∀ i < k, reasonAt isFinal limit script i = none := by
  rw [stopBefore?, List.find?_range_eq_some]
  simp only [List.mem_range, Bool.not_eq_true', Option.isSome_eq_false_iff,
    Option.isNone_iff_eq_none]
  exact and_left_comm

/-- A stop point stays one, however many outcomes follow. -/
theorem stopBefore?_of_le {script : Nat → Poll τ ε} {n m k : Nat}
    (h : stopBefore? isFinal limit script n = some k) (hle : n ≤ m) :
    stopBefore? isFinal limit script m = some k := by
  rw [stopBefore?_eq_some_iff] at h ⊢
  exact ⟨Nat.lt_of_lt_of_le h.1 hle, h.2⟩

/-- While a stream runs, its chunks are below the limit. -/
theorem chunksIn_lt_of_running {script : Nat → Poll τ ε} {n : Nat}
    (h : stopBefore? isFinal limit script n = none) : chunksIn script n < max limit 1 := by
  rw [stopBefore?_eq_none_iff] at h
  induction n with
  | zero =>
    have hzero : chunksIn script 0 = 0 := rfl
    omega
  | succ n ih =>
    have hn : chunksIn script n < max limit 1 := ih fun i hi => h i (by omega)
    have hgoes := h n (by omega)
    rw [chunksIn_succ]
    cases ho : script n with
    | chunk c =>
      -- the chunk did not reach the limit, or the stream would have stopped at it
      have hne : chunksIn script (n + 1) ≠ max limit 1 := by
        intro heq
        rw [reasonAt, ho] at hgoes
        simp only [heq, if_true] at hgoes
        split at hgoes <;> simp at hgoes
      rw [chunksIn_succ, ho] at hne
      simp only [Poll.isChunk, if_true] at hne ⊢
      omega
    | pending => simpa [Poll.isChunk] using hn
    | failed e => simpa [Poll.isChunk] using hn
    | ended => simpa [Poll.isChunk] using hn

/-! ## One poll after the other -/

section Reference

variable (next : σ → Poll τ ε × σ) (source : σ)

/-- The state after `n` polls, said of the outcomes of the stream behind. -/
def reference (n : Nat) : Bounded σ :=
  let script := outcomeAt next source
  let polls := reached isFinal limit script n
  { source := some (sourceAfter next source polls)
    limit := max limit 1
    seen := chunksIn script polls
    stop := stopReason? isFinal limit script n }

theorem reference_of_stopped {n m k : Nat}
    (h : stopBefore? isFinal limit (outcomeAt next source) n = some k) (hle : n ≤ m) :
    reference isFinal limit next source m = reference isFinal limit next source n := by
  simp only [reference, reached, stopReason?, h, stopBefore?_of_le isFinal limit h hle]

/-- What poll number `n` gives, said of the outcomes of the stream behind. -/
def expected (n : Nat) : Poll τ ε :=
  let script := outcomeAt next source
  if stopBefore? isFinal limit script n = none then script n else .ended

/-- One more poll of a running stream reaches the stream behind, and stops if that outcome does. -/
theorem reached_succ_of_running {script : Nat → Poll τ ε} {n : Nat}
    (h : stopBefore? isFinal limit script n = none) :
    reached isFinal limit script (n + 1) = n + 1 ∧
      stopReason? isFinal limit script (n + 1) = reasonAt isFinal limit script n := by
  rw [reached, stopReason?, stopBefore?_succ, h, Option.none_or]
  cases hr : reasonAt isFinal limit script n with
  | none => exact ⟨rfl, rfl⟩
  | some reason => exact ⟨rfl, hr⟩

/-- A poll of a running stream polls the stream behind once, and passes its outcome on. -/
theorem poll_reference_of_running {n : Nat}
    (h : stopBefore? isFinal limit (outcomeAt next source) n = none) :
    (reference isFinal limit next source n).poll next isFinal =
      (outcomeAt next source n, reference isFinal limit next source (n + 1)) := by
  obtain ⟨hreached, hreason⟩ := reached_succ_of_running isFinal limit h
  have hlt := chunksIn_lt_of_running isFinal limit h
  have hstart : reference isFinal limit next source n =
      { source := some (sourceAfter next source n), limit := max limit 1,
        seen := chunksIn (outcomeAt next source) n, stop := none } := by
    simp only [reference, reached, stopReason?, h, Option.bind_none]
  have hend : reference isFinal limit next source (n + 1) =
      { source := some (sourceAfter next source (n + 1)), limit := max limit 1,
        seen := chunksIn (outcomeAt next source) (n + 1),
        stop := reasonAt isFinal limit (outcomeAt next source) n } := by
    simp only [reference, hreached, hreason]
  rw [hstart, hend, poll]
  refine Prod.ext rfl ?_
  show note isFinal _ (outcomeAt next source n) = _
  rw [chunksIn_succ, reasonAt]
  cases ho : outcomeAt next source n with
  | pending => rfl
  | chunk c =>
    have hseen : chunksIn (outcomeAt next source) (n + 1) =
        chunksIn (outcomeAt next source) n + 1 := by
      rw [chunksIn_succ, ho]; rfl
    -- the chunks before were below the limit, so the first to be not below reaches it
    have hlimit : max limit 1 ≤ chunksIn (outcomeAt next source) n + 1 ↔
        chunksIn (outcomeAt next source) n + 1 = max limit 1 := by omega
    simp only [note, hseen, hlimit, Poll.isChunk, if_true, sourceAfter]
  | failed e => rfl
  | ended => rfl

/-- A stream that has stopped is not polled again. -/
theorem poll_reference_of_stopped {n k : Nat}
    (h : stopBefore? isFinal limit (outcomeAt next source) n = some k) :
    (reference isFinal limit next source n).poll next isFinal =
      (.ended, reference isFinal limit next source (n + 1)) := by
  obtain ⟨_, hreason, _⟩ := (stopBefore?_eq_some_iff isFinal limit).mp h
  obtain ⟨reason, hr⟩ := Option.isSome_iff_exists.mp hreason
  have hstop : (reference isFinal limit next source n).stop = some reason := by
    simp only [reference, stopReason?, h, Option.bind_some, hr]
  rw [reference_of_stopped isFinal limit next source h (Nat.le_succ n), poll, hstop]

/-- One poll leads from a reference state to the next one. -/
theorem poll_reference (n : Nat) :
    (reference isFinal limit next source n).poll next isFinal =
      (expected isFinal limit next source n, reference isFinal limit next source (n + 1)) := by
  rw [expected]
  cases h : stopBefore? isFinal limit (outcomeAt next source) n with
  | none => exact poll_reference_of_running isFinal limit next source h
  | some k => exact poll_reference_of_stopped isFinal limit next source h

end Reference

/-! ## Runs of polls -/

section Runs

variable (next : σ → Poll τ ε × σ) (b : Bounded σ)

/-- The state after `n` polls. -/
def after : (n : Nat) → Bounded σ
  | 0 => b
  | n + 1 => ((after n).poll next isFinal).2

/-- What poll number `n` gives. -/
def given (n : Nat) : Poll τ ε :=
  ((after isFinal next b n).poll next isFinal).1

end Runs

/-- After any number of polls a stream is in its reference state. -/
theorem after_ofSource (next : σ → Poll τ ε × σ) (source : σ) (n : Nat) :
    after isFinal next (ofSource source limit) n = reference isFinal limit next source n := by
  induction n with
  | zero => rfl
  | succ n ih => rw [after, ih, poll_reference]

theorem given_ofSource (next : σ → Poll τ ε × σ) (source : σ) (n : Nat) :
    given isFinal next (ofSource source limit) n = expected isFinal limit next source n := by
  rw [given, after_ofSource, poll_reference]

/-- The chunks that were delivered are the chunks of the polls that reached the stream behind. -/
theorem countP_expected (next : σ → Poll τ ε × σ) (source : σ) (n : Nat) :
    ((List.range n).countP fun i => (expected isFinal limit next source i).isChunk) =
      chunksIn (outcomeAt next source) (reached isFinal limit (outcomeAt next source) n) := by
  induction n with
  | zero => rfl
  | succ n ih =>
    rw [List.range_succ, List.countP_append, ih, List.countP_singleton, expected]
    cases h : stopBefore? isFinal limit (outcomeAt next source) n with
    | none =>
      rw [(reached_succ_of_running isFinal limit h).1, chunksIn_succ]
      simp only [reached, h, if_true]
    | some k => simp [reached, stopBefore?_succ, h, Poll.isChunk]

/-- The chunks up to the stop point are at most as many as the limit allows. -/
theorem chunksIn_reached_le (script : Nat → Poll τ ε) (n : Nat) :
    chunksIn script (reached isFinal limit script n) ≤ max limit 1 := by
  rw [reached]
  cases h : stopBefore? isFinal limit script n with
  | none => exact Nat.le_of_lt (chunksIn_lt_of_running isFinal limit h)
  | some k =>
    obtain ⟨_, _, hbefore⟩ := (stopBefore?_eq_some_iff isFinal limit).mp h
    have hk : chunksIn script k < max limit 1 :=
      chunksIn_lt_of_running isFinal limit ((stopBefore?_eq_none_iff isFinal limit).mpr hbefore)
    show chunksIn script (k + 1) ≤ max limit 1
    rw [chunksIn_succ]
    split <;> omega

/-- Giving a stream back tells the log of an early stop if it was running or at its limit. -/
theorem finish_of_source {b : Bounded σ} {source : σ} (h : b.source = some source) :
    ∃ event : Log.Event, b.finish = (⟨b.seen, b.stop⟩, [event], { b with source := none }) ∧
      (event.level = .info ↔ b.stop = none ∨ b.stop = some .limit) := by
  rw [finish, h]
  rcases hs : b.stop with _ | (_ | _ | _ | _)
  all_goals exact ⟨_, rfl, by simp [Log.Event.say]⟩

/-- **A bounded stream follows the stream behind to its stop point.** Poll number `n` gives the
outcome of the stream behind if that has not stopped the stream before, and the end otherwise. Each
poll up to the stop point reached the stream behind once, the later ones did not. The state tells
the chunks delivered, which never exceed the limit, and the reason at the stop point. Giving the
stream back returns these two, and lets go of the stream behind. -/
theorem polls_up_to_stopPoint (next : σ → Poll τ ε × σ) (source : σ) (n : Nat) :
    let script := outcomeAt next source
    let stream := ofSource (source, 0) limit
    let polls := match stopBefore? isFinal limit script n with
      | none => n
      | some k => k + 1
    let b := after isFinal (counting next) stream n
    given isFinal (counting next) stream n =
        (if stopBefore? isFinal limit script n = none then script n else .ended) ∧
      b.source = some (sourceAfter next source polls, polls) ∧
      b.seen = ((List.range n).countP fun i => (given isFinal (counting next) stream i).isChunk) ∧
      b.seen ≤ max limit 1 ∧
      b.stop = (stopBefore? isFinal limit script n).bind (reasonAt isFinal limit script) ∧
      ∃ event : Log.Event, b.finish = (⟨b.seen, b.stop⟩, [event], { b with source := none }) ∧
        (event.level = .info ↔ b.stop = none ∨ b.stop = some .limit) := by
  intro script stream polls b
  have hscript : outcomeAt (counting next) (source, 0) = script := outcomeAt_counting next source
  have hb : b = reference isFinal limit (counting next) (source, 0) n :=
    after_ofSource isFinal limit (counting next) (source, 0) n
  have hsource : b.source = some (sourceAfter next source polls, polls) := by
    rw [hb]
    show some (sourceAfter _ _ (reached isFinal limit (outcomeAt _ (source, 0)) n)) = _
    rw [hscript, sourceAfter_counting]
    rfl
  have hseen : b.seen = chunksIn script (reached isFinal limit script n) := by
    rw [hb, ← hscript]
    rfl
  refine ⟨?_, hsource, ?_, ?_, ?_, finish_of_source hsource⟩
  · rw [given_ofSource, expected, hscript]
  · simp only [given_ofSource, stream]
    rw [countP_expected, hscript, hseen]
  · rw [hseen]
    exact chunksIn_reached_le isFinal limit script n
  · rw [hb, ← hscript]
    rfl

end Bounded

end ScriptClient
