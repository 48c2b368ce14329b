import ScriptClient.Proofs.StopPoint

set_option autoImplicit false

/-! # What is delivered of a list

A list of chunks and errors, polled through a bounded stream, is delivered up to its stop point and
no further (`Bounded.collectItems_eq`). So the items after the stop point make no difference
(`Bounded.delivered_of_agree`), and only the last item that is delivered can be an error. -/

namespace ScriptClient.Bounded

variable {τ ε : Type} (isFinal : τ → Bool) (limit : Nat)

/-! ## The outcomes of a list -/

/-- The outcomes of a list that is polled. -/
def scriptOf (items : List (Except ε τ)) : Nat → Poll τ ε :=
  outcomeAt nextItem items

/-- The outcome of one item, or of the end. -/
def outcomeOf : Option (Except ε τ) → Poll τ ε
  | none => .ended
  | some (.ok c) => .chunk c
  | some (.error e) => .failed e

theorem nextItem_eq (items : List (Except ε τ)) :
    nextItem items = (outcomeOf items.head?, items.tail) := by
  cases items with
  | nil => rfl
  | cons item rest => cases item <;> rfl

theorem sourceAfter_nextItem (items : List (Except ε τ)) (n : Nat) :
    sourceAfter nextItem items n = items.drop n := by
  induction n with
  | zero => rfl
  | succ n ih => rw [sourceAfter, ih, nextItem_eq, List.tail_drop]

theorem scriptOf_eq (items : List (Except ε τ)) (n : Nat) :
    scriptOf items n = outcomeOf items[n]? := by
  rw [scriptOf, outcomeAt, sourceAfter_nextItem, nextItem_eq, List.head?_drop]

/-- At the end of a list a stream stops, if not before. -/
theorem exists_stop (items : List (Except ε τ)) :
    ∃ k, stopBefore? isFinal limit (scriptOf items) (items.length + 1) = some k := by
  rw [stopBefore?_succ, reasonAt, scriptOf_eq, List.getElem?_eq_none (Nat.le_refl _)]
  cases stopBefore? isFinal limit (scriptOf items) items.length with
  | none => exact ⟨items.length, rfl⟩
  | some k => exact ⟨k, rfl⟩

/-- All outcomes before a running stream are chunks, since a list is never pending. -/
theorem getElem?_of_running {items : List (Except ε τ)} {n : Nat}
    (h : stopBefore? isFinal limit (scriptOf items) n = none) {i : Nat} (hi : i < n) :
    ∃ c, items[i]? = some (.ok c) := by
  have hgoes := (stopBefore?_eq_none_iff isFinal limit).mp h i hi
  rw [reasonAt, scriptOf_eq] at hgoes
  cases hitem : items[i]? with
  | none => simp [hitem, outcomeOf] at hgoes
  | some item =>
    cases item with
    | ok c => exact ⟨c, rfl⟩
    | error e => simp [hitem, outcomeOf] at hgoes

theorem chunksIn_of_running {items : List (Except ε τ)} {n : Nat}
    (h : stopBefore? isFinal limit (scriptOf items) n = none) :
    chunksIn (scriptOf items) n = n := by
  rw [chunksIn, List.countP_eq_length.mpr, List.length_range]
  intro i hi
  obtain ⟨c, hc⟩ := getElem?_of_running isFinal limit h (List.mem_range.mp hi)
  rw [scriptOf_eq, hc]
  rfl

theorem le_length_of_running {items : List (Except ε τ)} {n : Nat}
    (h : stopBefore? isFinal limit (scriptOf items) n = none) : n ≤ items.length := by
  cases n with
  | zero => exact Nat.zero_le _
  | succ n =>
    obtain ⟨c, hc⟩ := getElem?_of_running isFinal limit h (Nat.lt_succ_self n)
    exact (List.getElem?_eq_some_iff.mp hc).1

/-- What a bounded stream delivers of a list: the items up to the stop point. -/
def delivered (items : List (Except ε τ)) : List (Except ε τ) :=
  items.take (reached isFinal limit (scriptOf items) (items.length + 1))

/-- Why a bounded stream stops that delivers a list. -/
def listStop? (items : List (Except ε τ)) : Option StreamEnd :=
  stopReason? isFinal limit (scriptOf items) (items.length + 1)

/-- The next item of a running stream is delivered. -/
theorem drop_delivered_of_running {items : List (Except ε τ)} {n : Nat}
    (h : stopBefore? isFinal limit (scriptOf items) n = none) :
    (delivered isFinal limit items).drop n =
      items[n]?.toList ++ (delivered isFinal limit items).drop (n + 1) := by
  obtain ⟨k, hk⟩ := exists_stop isFinal limit items
  -- the stream still runs, so its stop point is not before this item
  have hlt : n < k + 1 := by
    by_cases hn : n ≤ k
    · exact Nat.lt_succ_of_le hn
    · have hreason := ((stopBefore?_eq_some_iff isFinal limit).mp hk).2.1
      rw [(stopBefore?_eq_none_iff isFinal limit).mp h k (Nat.lt_of_not_le hn)] at hreason
      simp at hreason
  rw [List.drop_eq_getElem?_toList_append, delivered, reached, hk, List.getElem?_take_of_lt hlt]

theorem delivered_of_stop {items : List (Except ε τ)} {n k : Nat}
    (h : stopBefore? isFinal limit (scriptOf items) n = some k) (hle : n ≤ items.length + 1) :
    delivered isFinal limit items = items.take (k + 1) := by
  rw [delivered, reached, stopBefore?_of_le isFinal limit h hle]

/-! ## Collecting items -/

theorem collect_of_stopped {σ : Type} (next : σ → Poll τ ε × σ) {b : Bounded σ} {reason : StreamEnd}
    (h : b.stop = some reason) (count : Nat) : collect next isFinal count b = ([], b) := by
  cases count with
  | zero => rfl
  | succ count => rw [collect, poll, h]

/-- If a running stream stops at the next item, that item is the last one. -/
theorem collect_reference_of_stop {items : List (Except ε τ)} {n : Nat}
    (hruns : stopBefore? isFinal limit (scriptOf items) n = none)
    (hreason : (reasonAt isFinal limit (scriptOf items) n).isSome) (hn : n ≤ items.length)
    (count : Nat) :
    collect nextItem isFinal count (reference isFinal limit nextItem items (n + 1)) =
        ([], reference isFinal limit nextItem items (items.length + 1)) ∧
      delivered isFinal limit items = items.take (n + 1) := by
  have hstop : stopBefore? isFinal limit (scriptOf items) (n + 1) = some n := by
    rw [stopBefore?_succ, hruns, if_pos hreason]
    rfl
  obtain ⟨reason, hr⟩ := Option.isSome_iff_exists.mp hreason
  have hsame := reference_of_stopped isFinal limit nextItem items hstop (Nat.succ_le_succ hn)
  have hstopped : (reference isFinal limit nextItem items (n + 1)).stop = some reason :=
    (reached_succ_of_running isFinal limit hruns).2.trans hr
  refine ⟨?_, delivered_of_stop isFinal limit hstop (Nat.succ_le_succ hn)⟩
  rw [collect_of_stopped isFinal nextItem hstopped, hsame]

/-- From a running stream on, the rest of what is delivered is collected. -/
theorem collect_reference (items : List (Except ε τ)) (count n : Nat)
    (hruns : stopBefore? isFinal limit (scriptOf items) n = none)
    (hcount : max limit 1 < n + count) :
    collect nextItem isFinal count (reference isFinal limit nextItem items n) =
      ((delivered isFinal limit items).drop n,
        reference isFinal limit nextItem items (items.length + 1)) := by
  induction count generalizing n with
  | zero =>
    -- all polls so far gave a chunk, and they are below the limit
    have hchunks := chunksIn_lt_of_running isFinal limit hruns
    rw [chunksIn_of_running isFinal limit hruns] at hchunks
    omega
  | succ count ih =>
    rw [collect, poll_reference_of_running isFinal limit nextItem items hruns, ← scriptOf]
    rw [drop_delivered_of_running isFinal limit hruns]
    have hscript := scriptOf_eq items n
    have hn := le_length_of_running isFinal limit hruns
    cases hitem : items[n]? with
    | none =>
      have heq : n = items.length := Nat.le_antisymm hn (List.getElem?_eq_none_iff.mp hitem)
      have hnil : (delivered isFinal limit items).drop (n + 1) = [] := by
        rw [List.drop_eq_nil_iff, delivered, List.length_take]
        omega
      rw [hitem] at hscript
      rw [hscript, hnil, heq]
      rfl
    | some item =>
      rw [hitem] at hscript
      cases hreason : reasonAt isFinal limit (scriptOf items) n with
      | some reason =>
        -- the stream stops here, so nothing is collected after this item
        obtain ⟨hcollect, hdelivered⟩ := collect_reference_of_stop isFinal limit hruns
          (Option.isSome_of_eq_some hreason) hn count
        rw [hscript, hdelivered, List.drop_take_self]
        cases item with
        | error e => simp only [outcomeOf, hcollect, Option.toList_some, List.append_nil]
        | ok c => simp only [outcomeOf, hcollect, Option.toList_some, List.append_nil]
      | none =>
        have hnext : stopBefore? isFinal limit (scriptOf items) (n + 1) = none := by
          rw [stopBefore?_succ, hruns, hreason]
          rfl
        cases item with
        | error e =>
          rw [reasonAt, hscript] at hreason
          cases hreason
        | ok c =>
          rw [hscript]
          simp only [outcomeOf, ih (n + 1) hnext (by omega), Option.toList_some,
            List.singleton_append]

/-- A bounded stream delivers the items up to the stop point, and is left in the state there. -/
theorem collectItems_eq (items : List (Except ε τ)) :
    collectItems isFinal limit items =
      (delivered isFinal limit items,
        reference isFinal limit nextItem items (items.length + 1)) := by
  have hstart : ofSource items limit = reference isFinal limit nextItem items 0 := rfl
  rw [collectItems, hstart]
  exact collect_reference isFinal limit items _ 0 rfl (by simp only [reference]; omega)

/-! ## The last item -/

/-- The error of an item that is one. -/
def errorOf? : Except ε τ → Option ε
  | .ok _ => none
  | .error e => some e

/-- The error that is delivered, if one is. -/
def breach? (items : List (Except ε τ)) : Option ε :=
  (delivered isFinal limit items).findSome? errorOf?

private theorem map_ok_toOption {l : List (Except ε τ)} (h : ∀ item ∈ l, ∃ c, item = .ok c) :
    (l.filterMap Except.toOption).map .ok = l := by
  induction l with
  | nil => rfl
  | cons item rest ih =>
    obtain ⟨c, rfl⟩ := h item List.mem_cons_self
    simp only [List.filterMap_cons, Except.toOption, List.map_cons,
      ih fun x hx => h x (List.mem_cons_of_mem _ hx)]

/-- What is delivered are chunks, and after them an error if that was the reason to stop. -/
theorem delivered_eq (items : List (Except ε τ)) :
    delivered isFinal limit items =
        ((delivered isFinal limit items).filterMap Except.toOption).map .ok ++
          (breach? isFinal limit items).toList.map .error ∧
      ((breach? isFinal limit items).isSome ↔ listStop? isFinal limit items = some .failed) := by
  obtain ⟨k, hk⟩ := exists_stop isFinal limit items
  obtain ⟨_, hreason, hbefore⟩ := (stopBefore?_eq_some_iff isFinal limit).mp hk
  have hruns := (stopBefore?_eq_none_iff isFinal limit).mpr hbefore
  -- all items before the stop point are chunks
  have hfront : ((items.take k).filterMap Except.toOption).map .ok = items.take k := by
    apply map_ok_toOption
    intro item hitem
    obtain ⟨i, hi, rfl⟩ := List.mem_take_iff_getElem.mp hitem
    obtain ⟨c, hc⟩ := getElem?_of_running isFinal limit hruns (i := i) (by omega)
    exact ⟨c, Option.some.inj ((List.getElem?_eq_getElem _).symm.trans hc)⟩
  have hdelivered : delivered isFinal limit items = items.take k ++ items[k]?.toList := by
    rw [delivered_of_stop isFinal limit hk (Nat.le_refl _), List.take_add_one]
  -- so the error that is delivered, if one is, is the item at the stop point
  have hbreach : breach? isFinal limit items = items[k]?.bind errorOf? := by
    have hnone : (items.take k).findSome? errorOf? = none := by
      rw [← hfront, List.findSome?_map]
      exact List.findSome?_eq_none_iff.mpr fun c _ => rfl
    rw [breach?, hdelivered, List.findSome?_append, hnone, Option.none_or]
    cases items[k]? with
    | none => rfl
    | some item => simp
  have hstop : listStop? isFinal limit items = reasonAt isFinal limit (scriptOf items) k := by
    rw [listStop?, stopReason?, hk, Option.bind_some]
  rw [hbreach, hstop, reasonAt, scriptOf_eq, hdelivered, List.filterMap_append, List.map_append,
    hfront]
  cases items[k]? with
  | none => simp [outcomeOf]
  | some item =>
    cases item with
    | error e => simp [outcomeOf, errorOf?, Except.toOption]
    | ok c =>
      simp only [outcomeOf, Option.bind_some, errorOf?, Option.isSome_none, Bool.false_eq_true,
        false_iff]
      refine ⟨by simp [Except.toOption], ?_⟩
      by_cases hfinal : isFinal c
      · simp [hfinal]
      · simp [hfinal]

/-! ## The items after the stop point -/

theorem reasonAt_congr {script script' : Nat → Poll τ ε} {n : Nat}
    (h : ∀ i ≤ n, script i = script' i) :
    reasonAt isFinal limit script n = reasonAt isFinal limit script' n := by
  have hchunks : chunksIn script (n + 1) = chunksIn script' (n + 1) := by
    apply List.countP_congr
    intro i hi
    rw [h i (Nat.le_of_lt_succ (List.mem_range.mp hi))]
  rw [reasonAt, reasonAt, h n (Nat.le_refl n), hchunks]

/-- Lists with the same items up to the stop point of one of them are delivered alike. -/
theorem delivered_of_agree {items items' : List (Except ε τ)} {k : Nat}
    (hk : stopBefore? isFinal limit (scriptOf items) items.length = some k)
    (h : items'.take (k + 1) = items.take (k + 1)) :
    delivered isFinal limit items' = delivered isFinal limit items := by
  obtain ⟨hlt, hreason, hbefore⟩ := (stopBefore?_eq_some_iff isFinal limit).mp hk
  have hscript : ∀ i ≤ k, scriptOf items' i = scriptOf items i := by
    intro i hi
    rw [scriptOf_eq, scriptOf_eq, ← List.getElem?_take_of_lt (Nat.lt_succ_of_le hi), h,
      List.getElem?_take_of_lt (Nat.lt_succ_of_le hi)]
  have hlength : k < items'.length := by
    have := congrArg List.length h
    simp only [List.length_take] at this
    omega
  have hk' : stopBefore? isFinal limit (scriptOf items') items'.length = some k := by
    refine (stopBefore?_eq_some_iff isFinal limit).mpr ⟨hlength, ?_, ?_⟩
    · rwa [reasonAt_congr isFinal limit hscript]
    · intro i hi
      rw [reasonAt_congr isFinal limit fun j hj => hscript j (by omega)]
      exact hbefore i hi
  rw [delivered_of_stop isFinal limit hk (Nat.le_succ _),
    delivered_of_stop isFinal limit hk' (Nat.le_succ _), h]

/-- Whatever stands in place of the items after the stop point makes no difference, unless the
stream stops because there are no more items. -/
theorem delivered_append {items : List (Except ε τ)}
    (h : listStop? isFinal limit items ≠ some .exhausted) (rest : List (Except ε τ)) :
    delivered isFinal limit (delivered isFinal limit items ++ rest) =
      delivered isFinal limit items := by
  obtain ⟨k, hk⟩ := exists_stop isFinal limit items
  obtain ⟨hlt, hreason, hbefore⟩ := (stopBefore?_eq_some_iff isFinal limit).mp hk
  -- a stop at the end of the list would be for want of items
  have hlength : k < items.length := by
    apply Nat.lt_of_le_of_ne (Nat.le_of_lt_succ hlt)
    intro heq
    apply h
    rw [listStop?, stopReason?, hk, Option.bind_some, reasonAt, scriptOf_eq,
      List.getElem?_eq_none (Nat.le_of_eq heq.symm)]
    rfl
  have hk' : stopBefore? isFinal limit (scriptOf items) items.length = some k :=
    (stopBefore?_eq_some_iff isFinal limit).mpr ⟨hlength, hreason, hbefore⟩
  have hfront : (items.take (k + 1)).length = k + 1 := by
    rw [List.length_take, Nat.min_eq_left hlength]
  have hsame : (delivered isFinal limit items ++ rest).take (k + 1) = items.take (k + 1) := by
    rw [delivered_of_stop isFinal limit hk (Nat.le_refl _),
      List.take_append_of_le_length (Nat.le_of_eq hfront.symm), List.take_take, Nat.min_self]
  exact delivered_of_agree isFinal limit hk' hsame

end ScriptClient.Bounded
