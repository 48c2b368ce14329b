import ScriptClient.Call.Typed
import ScriptClient.Proofs.Rpc.Metadata
import ScriptClient.Proofs.Session.Story
import ScriptClient.Proofs.Trace.Canonical

set_option autoImplicit false

/-! # Contexts a program can come by

A program starts a trace, takes one over from its environment or from a text, and makes the spans
of its calls. However it combines them, its contexts are canonical, and each is told in metadata
and read back from there (`reachable_wellFormed`). The canonical contexts are all that it can come
by (`reachable_iff_canonical`). -/

namespace ScriptClient.Trace.Context

open Rpc Text

/-! ## Taking over a trace -/

/-- The trace that the environment hands in is taken over. -/
theorem outcome_inheritedTrace_of_some {State : Type} {env : Settings.Environment} {c : Context}
    (h : (env.get? Call.traceVariable).bind parse? = some c)
    (world : World Ask Ask.Answer State) (state : State) :
    ((Call.inheritedTrace env).outcome world state).1 = c := by
  rw [Call.inheritedTrace, h]
  rfl

/-- Without such a trace, the next two ticks make a new one. -/
theorem outcome_inheritedTrace_of_none {State : Type} {env : Settings.Environment}
    (h : (env.get? Call.traceVariable).bind parse? = none)
    (world : World Ask Ask.Answer State) (state : State) :
    ((Call.inheritedTrace env).outcome world state).1 =
      fresh (world .tick state).1 (world .tick (world .tick state).2).1 := by
  rw [Call.inheritedTrace, h]
  rfl

@[simp]
theorem isSampled_fresh (forTrace forSpan : Tick) :
    (fresh forTrace forSpan).isSampled = true := by
  show (sampledFlag &&& sampledFlag != 0) = true
  decide

/-! ## Reachable contexts -/

/-- A context that a program can come by. -/
inductive Reachable : Context → Prop where
  /-- A new trace. -/
  | fresh (forTrace forSpan : Tick) : Reachable (.fresh forTrace forSpan)
  /-- The trace of a program in its environment, in any world. -/
  | inherited {State : Type} (env : Settings.Environment) (world : World Ask Ask.Answer State)
      (state : State) : Reachable ((Call.inheritedTrace env).outcome world state).1
  /-- A context that was read from a text. -/
  | parsed {value : String} {c : Context} (h : parse? value = some c) : Reachable c
  /-- The span of a call. -/
  | child {c : Context} (h : Reachable c) (t : Tick) : Reachable (c.child t)

theorem canonical_inheritedTrace {State : Type} (env : Settings.Environment)
    (world : World Ask Ask.Answer State) (state : State) :
    ((Call.inheritedTrace env).outcome world state).1.Canonical := by
  cases h : (env.get? Call.traceVariable).bind parse? with
  | some c =>
    obtain ⟨value, -, hparse⟩ := Option.bind_eq_some_iff.mp h
    rw [outcome_inheritedTrace_of_some h]
    exact canonical_of_parse? hparse
  | none =>
    rw [outcome_inheritedTrace_of_none h]
    exact canonical_fresh _ _

theorem Reachable.canonical {c : Context} (h : Reachable c) : c.Canonical := by
  induction h with
  | fresh forTrace forSpan => exact canonical_fresh forTrace forSpan
  | inherited env world state => exact canonical_inheritedTrace env world state
  | parsed h => exact canonical_of_parse? h
  | child _ t ih => exact ih.child t

/-- **Reachable contexts** are the canonical ones: each of these is read from its text. -/
theorem reachable_iff_canonical {c : Context} : Reachable c ↔ c.Canonical :=
  ⟨Reachable.canonical, fun h => .parsed h.parse?_render⟩

/-! ## Telling a context -/

/-- The text of a canonical context has only visible characters. -/
theorem Canonical.visible_render {c : Context} (h : c.Canonical) :
    ∀ d ∈ c.render.toList, 0x20 ≤ d.toNat ∧ d.toNat < 0x7f := by
  intro d hd
  rcases h.mem_render hd with hlower | rfl
  · exact (Hex.isLower_facts hlower).2.2.2.2
  · decide

/-- A canonical context gets into metadata, in the place of the values under its key. -/
theorem Canonical.valuesOf_inject {c : Context} (h : c.Canonical) (metadata : Metadata) :
    (c.inject metadata).valuesOf metadataKey = [Utf8.encode c.render] := by
  rw [inject, Metadata.insertText_of_visible _ _ h.visible_render, Metadata.valuesOf_insert,
    if_pos rfl]

/-- **Contexts of a program.** However a program comes by a context, its identifiers are so many
lowercase digits, not all zero; it is read back from its text, which may be a value of metadata and
is never left out there; and its calls keep its trace and flags. The trace of a program is the one
that its environment hands in, if that can be read, and a new recorded one if not. -/
theorem reachable_wellFormed {c : Context} (h : Reachable c) :
    c.Canonical ∧ parse? c.render = some c ∧ Metadata.isValue (Utf8.encode c.render) = true ∧
      (∀ metadata, (c.inject metadata).valuesOf metadataKey = [Utf8.encode c.render]) ∧
      (∀ t, (c.child t).traceId = c.traceId ∧ (c.child t).flags = c.flags) ∧
      ∀ {State : Type} (env : Settings.Environment) (world : World Ask Ask.Answer State)
        (state : State),
        match (env.get? Call.traceVariable).bind parse? with
        | some c' => ((Call.inheritedTrace env).outcome world state).1 = c'
        | none => ∃ forTrace forSpan,
          ((Call.inheritedTrace env).outcome world state).1 = fresh forTrace forSpan ∧
            (fresh forTrace forSpan).isSampled = true := by
  have hcanonical := h.canonical
  refine ⟨hcanonical, hcanonical.parse?_render, Metadata.isValue_encode hcanonical.visible_render,
    hcanonical.valuesOf_inject, fun t => ⟨traceId_child c t, flags_child c t⟩, ?_⟩
  intro State env world state
  split
  next h' => exact outcome_inheritedTrace_of_some h' world state
  next h' =>
    exact ⟨_, _, outcome_inheritedTrace_of_none h' world state, isSampled_fresh _ _⟩

/-- The span of a call in a trace that was handed in with digits in both cases. -/
theorem reachable_wellFormed_of_read :
    ∃ c, parse? "00-0AF7651916cd43dd8448eb211c80319c-b7ad6b7169203331-ff" = some c ∧
      Reachable (c.child ⟨7, 1⟩) ∧ parse? (c.child ⟨7, 1⟩).render = some (c.child ⟨7, 1⟩) := by
  let read : Context := ⟨"0af7651916cd43dd8448eb211c80319c", "b7ad6b7169203331", 255⟩
  have hread : parse? "00-0AF7651916cd43dd8448eb211c80319c-b7ad6b7169203331-ff" = some read := by
    decide +kernel
  have hreachable : Reachable (read.child ⟨7, 1⟩) := .child (.parsed hread) _
  exact ⟨read, hread, hreachable, (reachable_wellFormed hreachable).2.1⟩

end ScriptClient.Trace.Context
