import Mathlib.Logic.Relation
import ScriptClient.Channel

set_option autoImplicit false

/-! # Channel scopes step by step

A scope as a machine that does one thing at a time, next to a count that knows nothing of owners
and scopes: it goes up by one whenever a handle is made and down by one whenever one is dropped. A
body that looks at the live handles sees that count. In each state before the last the count is one
more than the handles of the body (`Sound`), every scope comes to its last state
(`reaches_final`), and there the count is zero and the result is that of the body. -/

namespace ScriptClient.Channel

/-- The result of a body that holds a number of handles next to the one of the owner. -/
def Body.result {α : Type} : Body α → (held : Nat) → α
  | .done a, _ => a
  | .copy next, held => next.result (if held = 0 then 0 else held + 1)
  | .drop next, held => next.result (held - 1)
  | .count next, held => (next (1 + held)).result held

/-! ## Handles -/

namespace Handles

theorem live_copy (h : Handles) :
    h.copy.live = if h.lent = 0 then h.live else h.live + 1 := by
  rw [copy]
  split
  · rfl
  · exact (Nat.add_assoc _ _ _).symm

theorem live_drop {h : Handles} (hlent : h.lent ≠ 0) : h.drop.live + 1 = h.live := by
  show (if h.owned then 1 else 0) + (h.lent - 1) + 1 = (if h.owned then 1 else 0) + h.lent
  omega

theorem live_of_owned {h : Handles} (howned : h.owned = true) : h.live = 1 + h.lent := by
  rw [live, howned, if_pos rfl]

theorem owned_copy (h : Handles) : h.copy.owned = h.owned := by
  rw [copy]
  split <;> rfl

end Handles

/-! ## Scopes -/

/-- How far a scope is. -/
inductive Phase (α : Type) where
  /-- The body has this much to do. -/
  | inside (body : Body α)
  /-- The body has ended, and the handles it still holds are dropped one by one. -/
  | leaving (result : α)
  /-- The owner has let go of its handle. -/
  | closed (result : α)

/-- A state of a scope. -/
structure Scope (α : Type) where
  phase : Phase α
  handles : Handles
  /-- How many handles were made so far, less those that were dropped. -/
  count : Int

namespace Scope

variable {α : Type}

/-- A scope that was just entered: two handles were made, that of the owner and the one lent. -/
def enter (body : Body α) : Scope α :=
  ⟨.inside body, ⟨true, 1⟩, 2⟩

/-- What a scope does next, unless it is closed. Without a handle there is nothing to copy and
nothing to drop. -/
def next? : Scope α → Option (Scope α)
  | ⟨.inside (.done a), h, count⟩ => some ⟨.leaving a, h, count⟩
  | ⟨.inside (.copy next), h, count⟩ =>
    some ⟨.inside next, h.copy, if h.lent = 0 then count else count + 1⟩
  | ⟨.inside (.drop next), h, count⟩ =>
    some ⟨.inside next, h.drop, if h.lent = 0 then count else count - 1⟩
  | ⟨.inside (.count next), h, count⟩ => some ⟨.inside (next count.toNat), h, count⟩
  | ⟨.leaving a, h, count⟩ =>
    if h.lent = 0 then some ⟨.closed a, close h, count - 1⟩
    else some ⟨.leaving a, h.drop, count - 1⟩
  | ⟨.closed _, _, _⟩ => none

/-- Whether a scope comes from one state to another. -/
def Reaches : Scope α → Scope α → Prop :=
  Relation.ReflTransGen fun s t => s.next? = some t

/-- Whether the owner has let go of its handle. -/
def isClosed (s : Scope α) : Bool :=
  match s.phase with
  | .closed _ => true
  | _ => false

/-- The count is that of the handles there are. The owner has one until the scope is closed, and
then the body has none. -/
structure Sound (s : Scope α) : Prop where
  count : s.count = s.handles.live
  owned : s.handles.owned = !s.isClosed
  lent : s.isClosed = true → s.handles.lent = 0

/-- The last state of a scope with a result. -/
def final (a : α) : Scope α :=
  ⟨.closed a, ⟨false, 0⟩, 0⟩

theorem sound_enter (body : Body α) : (enter body).Sound :=
  ⟨rfl, rfl, nofun⟩

/-- One step leaves the count that of the handles there are. -/
theorem Sound.next {s t : Scope α} (h : s.Sound) (hstep : s.next? = some t) : t.Sound := by
  obtain ⟨phase, handles, count⟩ := s
  obtain ⟨hcount, howned, -⟩ := h
  simp only at hcount howned
  cases phase with
  | closed a => cases hstep
  | leaving a =>
    have hlive := Handles.live_of_owned howned
    rw [next?] at hstep
    split at hstep
    next hlent =>
      cases hstep
      refine ⟨?_, rfl, fun _ => hlent⟩
      show count - 1 = ((0 + handles.lent : Nat) : Int)
      omega
    next hlent =>
      cases hstep
      refine ⟨?_, howned, nofun⟩
      show count - 1 = handles.drop.live
      have hdrop := Handles.live_drop hlent
      omega
  | inside body =>
    cases body with
    | done a =>
      cases hstep
      exact ⟨hcount, howned, nofun⟩
    | copy next =>
      cases hstep
      refine ⟨?_, (Handles.owned_copy handles).trans howned, nofun⟩
      rw [Handles.live_copy]
      split
      · exact hcount
      · exact congrArg (· + 1) hcount
    | drop next =>
      cases hstep
      refine ⟨?_, howned, nofun⟩
      show (if handles.lent = 0 then count else count - 1) = handles.drop.live
      split
      next hlent =>
        rw [hcount, Handles.drop, Handles.live, Handles.live, hlent]
      next hlent =>
        have hdrop := Handles.live_drop hlent
        omega
    | count next =>
      cases hstep
      exact ⟨hcount, howned, nofun⟩

/-- In every state of a scope the count is that of the handles there are. -/
theorem Sound.reaches {s t : Scope α} (h : s.Sound) (hreach : s.Reaches t) : t.Sound := by
  induction hreach with
  | refl => exact h
  | tail _ hstep ih => exact ih.next hstep

/-! ## The end of a scope -/

/-- When the body has ended, its handles are dropped and the owner lets go of its own. -/
theorem reaches_final_of_leaving (a : α) (held : Nat) {count : Int} (h : count = 1 + held) :
    Reaches ⟨.leaving a, ⟨true, held⟩, count⟩ (final a) := by
  induction held generalizing count with
  | zero =>
    obtain rfl : count = 1 := h
    exact .single rfl
  | succ held ih => exact .head rfl (ih (by omega))

/-- A body comes to its result, and the scope to its last state. -/
theorem reaches_final (body : Body α) (held : Nat) {count : Int} (h : count = 1 + held) :
    Reaches ⟨.inside body, ⟨true, held⟩, count⟩ (final (body.result held)) := by
  induction body generalizing held count with
  | done a => exact .head rfl (reaches_final_of_leaving a held h)
  | copy next ih =>
    cases held with
    | zero => exact .head rfl (ih 0 h)
    | succ held =>
      have hnext : Reaches ⟨.inside next, ⟨true, held + 2⟩, count + 1⟩
          (final (next.result (held + 2))) := ih (held + 2) (by omega)
      exact .head rfl hnext
  | drop next ih =>
    cases held with
    | zero => exact .head rfl (ih 0 h)
    | succ held =>
      have hnext : Reaches ⟨.inside next, ⟨true, held⟩, count - 1⟩ (final (next.result held)) :=
        ih held (by omega)
      exact .head rfl hnext
  | count next ih =>
    have hseen : count.toNat = 1 + held := by omega
    have hnext : Reaches ⟨.inside (next count.toNat), ⟨true, held⟩, count⟩
        (final ((next (1 + held)).result held)) := by
      rw [hseen]
      exact ih (1 + held) held h
    exact .head rfl hnext

/-- From each of its states a scope comes to the last one. -/
theorem Reaches.final_of {s t : Scope α} {a : α} (hfinal : s.Reaches (final a))
    (hreach : s.Reaches t) : t.Reaches (final a) := by
  have hunique : Relator.RightUnique fun s t : Scope α => s.next? = some t := by
    intro s t t' ht ht'
    exact Option.some.inj (ht.symm.trans ht')
  rcases Relation.ReflTransGen.total_of_right_unique hunique hfinal hreach with h | h
  · -- nothing comes after the last state
    rcases Relation.ReflTransGen.cases_head h with rfl | ⟨u, hstep, -⟩
    · exact .refl
    · cases hstep
  · exact h

end Scope

/-! ## Scopes as a whole -/

theorem Body.run_eq {α : Type} (body : Body α) (held : Nat) :
    ∃ lent, body.run ⟨true, held⟩ = (body.result held, ⟨true, lent⟩) := by
  induction body generalizing held with
  | done a => exact ⟨held, rfl⟩
  | copy next ih =>
    cases held with
    | zero => exact ih 0
    | succ held => exact ih (held + 2)
  | drop next ih => exact ih (held - 1)
  | count next ih => exact ih (1 + held) held

/-- A scope gives the result of its body, and leaves no handle. -/
theorem within_opened {α : Type} (body : Body α) :
    within body .opened = (body.result 1, ⟨false, 0⟩) := by
  obtain ⟨lent, hrun⟩ := body.run_eq 1
  have hlent : { Handles.opened with lent := Handles.opened.lent + 1 } = (⟨true, 1⟩ : Handles) :=
    rfl
  rw [within, hlent, hrun]
  rfl

/-- **Release of a channel.** As long as a scope is not closed, the handles are the one of the owner
and those of the body, and a count of all handles that are made and dropped agrees. From wherever it
is the scope comes to its last state, where there is no handle and the result is that of the body;
this is also what the scope comes to as a whole. -/
theorem scope_released {α : Type} (body : Body α) :
    (∀ s, (Scope.enter body).Reaches s →
      s.count = s.handles.live ∧
        (s.isClosed = false → s.handles.live = 1 + s.handles.lent) ∧
        (s.isClosed = true → s.handles.live = 0) ∧
        s.Reaches (Scope.final (body.result 1))) ∧
      within body .opened = (body.result 1, (Scope.final (body.result 1)).handles) := by
  refine ⟨fun s hreach => ?_, within_opened body⟩
  have hsound : s.Sound := (Scope.sound_enter body).reaches hreach
  refine ⟨hsound.count, fun hopen => ?_, fun hclosed => ?_,
    (Scope.reaches_final body 1 rfl).final_of hreach⟩
  · exact Handles.live_of_owned (by rw [hsound.owned, hopen]; rfl)
  · rw [Handles.live, hsound.owned, hsound.lent hclosed, hclosed]
    rfl

end ScriptClient.Channel
