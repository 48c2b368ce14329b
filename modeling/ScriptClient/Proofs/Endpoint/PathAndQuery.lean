import ScriptClient.Endpoint.PathAndQuery
import ScriptClient.Proofs.Text.Pieces

set_option autoImplicit false

/-! # The grammar of paths with a query

Which texts begin with a path and a query, apart from any reader: a path up to the first `?` or `#`,
a query up to the first `#`, and any fragment. A text is read exactly if it is so put together, and
the fragment is what is lost (`pathAndQuery?_eq_some_iff`). -/

namespace ScriptClient.Endpoint

/-- The text is a path and a query, `whole`, with a fragment behind them or none. -/
def HoldsPath (cs whole : List Char) : Prop :=
  ∃ path query fragment, cs = path ++ query ++ fragment ∧ whole = path ++ query ∧
    (∀ c ∈ path, c ≠ '?' ∧ c ≠ '#' ∧ isPathChar c = true) ∧
    (query = [] ∨ ∃ rest, query = '?' :: rest) ∧
    (∀ c ∈ query, c ≠ '#' ∧ isQueryChar c = true) ∧
    (fragment = [] ∨ ∃ rest, fragment = '#' :: rest)

/-- A mark ends what is taken before it. -/
theorem takeWhile_append_mark {mark : Char} {front rest : List Char} (hfront : mark ∉ front)
    (hrest : rest = [] ∨ ∃ rest', rest = mark :: rest') :
    (front ++ rest).takeWhile (· ≠ mark) = front ∧ (front ++ rest).dropWhile (· ≠ mark) = rest := by
  have hall : ∀ c ∈ front, decide (c ≠ mark) = true :=
    fun c hc => decide_eq_true fun heq => hfront (heq ▸ hc)
  refine Text.takeWhile_append_of_head hall ?_
  rcases hrest with rfl | ⟨rest', rfl⟩
  · exact nofun
  · rintro c ⟨⟩
    simp

theorem dropWhile_eq_nil_or_mark (mark : Char) (cs : List Char) :
    cs.dropWhile (· ≠ mark) = [] ∨ ∃ rest, cs.dropWhile (· ≠ mark) = mark :: rest := by
  cases h : cs.dropWhile (· ≠ mark) with
  | nil => exact .inl rfl
  | cons c rest =>
    have hmark := List.head?_dropWhile_not (· ≠ mark) cs
    rw [h] at hmark
    obtain rfl : c = mark := by simpa using hmark
    exact .inr ⟨rest, rfl⟩

/-- What is read is the text up to the first number sign. -/
theorem eq_takeWhile_of_pathAndQuery? {cs whole : List Char} (h : pathAndQuery? cs = some whole) :
    whole = cs.takeWhile (· ≠ '#') := by
  simp only [pathAndQuery?, Option.ite_none_right_eq_some, Option.some.injEq] at h
  exact h.2.symm

/-- **Paths with a query.** A text is read exactly if it holds a path, and as the path and the query
that it holds. -/
theorem pathAndQuery?_eq_some_iff {cs whole : List Char} :
    pathAndQuery? cs = some whole ↔ HoldsPath cs whole := by
  simp only [pathAndQuery?, Option.ite_none_right_eq_some, Option.some.injEq, List.all_eq_true]
  constructor
  · rintro ⟨⟨hpath, hquery⟩, rfl⟩
    have hwhole : ∀ c ∈ cs.takeWhile (· ≠ '#'), c ≠ '#' := fun c hc =>
      of_decide_eq_true (List.all_eq_true.mp List.all_takeWhile c hc)
    have hbefore : ∀ c ∈ (cs.takeWhile (· ≠ '#')).takeWhile (· ≠ '?'), c ≠ '?' := fun c hc =>
      of_decide_eq_true (List.all_eq_true.mp List.all_takeWhile c hc)
    refine ⟨(cs.takeWhile (· ≠ '#')).takeWhile (· ≠ '?'),
      (cs.takeWhile (· ≠ '#')).dropWhile (· ≠ '?'), cs.dropWhile (· ≠ '#'), ?_, ?_, ?_,
      dropWhile_eq_nil_or_mark '?' _, ?_, dropWhile_eq_nil_or_mark '#' cs⟩
    · rw [List.takeWhile_append_dropWhile, List.takeWhile_append_dropWhile]
    · rw [List.takeWhile_append_dropWhile]
    · intro c hc
      exact ⟨hbefore c hc, hwhole c ((List.takeWhile_prefix _).subset hc), hpath c hc⟩
    · intro c hc
      exact ⟨hwhole c ((List.dropWhile_suffix _).subset hc), hquery c hc⟩
  · rintro ⟨path, query, fragment, rfl, rfl, hpath, hquery, hqueryChars, hfragment⟩
    have hmark : '#' ∉ path ++ query := by
      intro hmem
      rcases List.mem_append.mp hmem with hmem | hmem
      · exact (hpath _ hmem).2.1 rfl
      · exact (hqueryChars _ hmem).1 rfl
    have hquestion : '?' ∉ path := fun hmem => (hpath _ hmem).1 rfl
    rw [(takeWhile_append_mark hmark hfragment).1, (takeWhile_append_mark hquestion hquery).1,
      (takeWhile_append_mark hquestion hquery).2]
    exact ⟨⟨fun c hc => (hpath c hc).2.2, fun c hc => (hqueryChars c hc).2⟩, rfl⟩

end ScriptClient.Endpoint
