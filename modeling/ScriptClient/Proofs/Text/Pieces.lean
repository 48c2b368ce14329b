import Mathlib.Data.List.DropRight
import ScriptClient.Text.Blank
import ScriptClient.Text.Pieces

set_option autoImplicit false

/-! # Texts put together from pieces

Pieces that hold no separator, with separators between them, are cut apart again
(`splitAt_append_cons`, `splitAt_of_not_mem`). Dropping characters at the ends of a text leaves it
as it is exactly if none of them stands at an end (`stripBoth_eq_self_iff`), so a text without
blanks is left as it is when blanks are dropped (`trim_eq_self`). An ending is only taken off a text
that ends with the same character (`dropEnding?_of_last_ne`). If no piece is the front of another
(`PrefixFree`), then neither are the texts that are put together from them, be it of two pieces
(`PrefixFree.pair`) or of many (`PrefixFree.separated`). -/

namespace ScriptClient.Text

theorem splitAt_of_not_mem {separator : Char} {cs : List Char} (h : separator ∉ cs) :
    splitAt separator cs = [cs] := by
  induction cs with
  | nil => rfl
  | cons c cs ih =>
    rw [List.mem_cons, not_or] at h
    rw [splitAt, if_neg (Ne.symm h.1), ih h.2]

theorem splitAt_append_cons {separator : Char} {piece : List Char} (h : separator ∉ piece)
    (rest : List Char) :
    splitAt separator (piece ++ separator :: rest) = piece :: splitAt separator rest := by
  induction piece with
  | nil => rw [List.nil_append, splitAt, if_pos rfl]
  | cons c piece ih =>
    rw [List.mem_cons, not_or] at h
    rw [List.cons_append, splitAt, if_neg (Ne.symm h.1), ih h.2]

section

variable {p : Char → Bool} {front : List Char} (hfront : ∀ c ∈ front, p c = true)

include hfront

/-- What satisfies `p` is taken up to the first character that does not. -/
theorem takeWhile_append_of_head {rest : List Char} (hrest : ∀ c ∈ rest.head?, p c = false) :
    (front ++ rest).takeWhile p = front ∧ (front ++ rest).dropWhile p = rest := by
  rw [List.takeWhile_append_of_pos hfront, List.dropWhile_append_of_pos hfront]
  cases rest with
  | nil => exact ⟨List.append_nil front, rfl⟩
  | cons c rest =>
    have hstop : ¬ p c = true := by rw [hrest c rfl]; exact Bool.false_ne_true
    rw [List.takeWhile_cons_of_neg hstop, List.dropWhile_cons_of_neg hstop, List.append_nil]
    exact ⟨rfl, rfl⟩

theorem takeWhile_append_cons {c : Char} (hc : p c = false) (rest : List Char) :
    (front ++ c :: rest).takeWhile p = front ∧ (front ++ c :: rest).dropWhile p = c :: rest := by
  refine takeWhile_append_of_head hfront ?_
  rintro d ⟨⟩
  exact hc

end

theorem dropWhile_eq_self {p : Char → Bool} {cs : List Char} :
    cs.dropWhile p = cs ↔ ∀ c, cs.head? = some c → p c = false := by
  rw [List.dropWhile_eq_self_iff]
  cases cs with
  | nil => exact iff_of_true nofun nofun
  | cons c rest => simp

theorem dropTrailing_eq_self_iff {p : Char → Bool} {cs : List Char} :
    dropTrailing p cs = cs ↔ ∀ c, cs.getLast? = some c → p c = false := by
  rw [dropTrailing, List.reverse_eq_iff, dropWhile_eq_self, List.head?_reverse]

/-- Nothing is dropped in front of a character that does not satisfy `p`. -/
theorem dropTrailing_append {p : Char → Bool} {front : List Char} {c : Char}
    (hlast : front.getLast? = some c) (hc : p c = false) (cs : List Char) :
    dropTrailing p (front ++ cs) = front ++ dropTrailing p cs := by
  induction cs using List.reverseRecOn with
  | nil =>
    rw [List.append_nil]
    refine (dropTrailing_eq_self p front fun d hd => ?_).trans (List.append_nil front).symm
    rw [← Option.some.inj (hlast.symm.trans hd), hc]
  | append_singleton cs d ih =>
    have hconcat : ∀ l, dropTrailing p (l ++ [d]) = if p d then dropTrailing p l else l ++ [d] :=
      fun l => List.rdropWhile_concat p l d
    rw [← List.append_assoc, hconcat, hconcat, ih]
    split
    next => rfl
    next => exact List.append_assoc front cs [d]

/-- A text is left as it is if no character at its ends satisfies `p`, and only then. -/
theorem stripBoth_eq_self_iff {p : Char → Bool} {cs : List Char} :
    stripBoth p cs = cs ↔
      (∀ c, cs.head? = some c → p c = false) ∧ ∀ c, cs.getLast? = some c → p c = false := by
  constructor
  · intro h
    have hfront : cs.dropWhile p = cs := by
      -- both steps only drop characters, so the first has not dropped any
      have hprefix : stripBoth p cs <+: cs.dropWhile p := List.rdropWhile_prefix p _
      rw [h] at hprefix
      exact (List.dropWhile_sublist p).eq_of_length_le hprefix.length_le
    rw [stripBoth, hfront] at h
    exact ⟨dropWhile_eq_self.mp hfront, dropTrailing_eq_self_iff.mp h⟩
  · rintro ⟨hhead, hlast⟩
    rw [stripBoth, dropWhile_eq_self.mpr hhead, dropTrailing_eq_self_iff.mpr hlast]

theorem stripBoth_eq_self {p : Char → Bool} {cs : List Char} (h : ∀ c ∈ cs, p c = false) :
    stripBoth p cs = cs :=
  stripBoth_eq_self_iff.mpr ⟨fun c hc => h c (List.mem_of_head? hc),
    fun c hc => h c (List.mem_of_getLast? hc)⟩

theorem trim_eq_self {cs : List Char} (h : ∀ c ∈ cs, isBlank c = false) : trim cs = cs :=
  stripBoth_eq_self h

theorem dropEnding?_append_append (ending front rest : List Char) :
    dropEnding? (ending ++ rest) (front ++ rest) = dropEnding? ending front := by
  ext before
  rw [dropEnding?_eq_some_iff, dropEnding?_eq_some_iff, ← List.append_assoc,
    List.append_cancel_right_eq]

theorem dropEnding?_of_last_ne {ending : List Char} {e c : Char} (hlast : ending.getLast? = some e)
    (hne : e ≠ c) (front : List Char) : dropEnding? ending (front ++ [c]) = none := by
  refine Option.eq_none_iff_forall_ne_some.mpr fun before hbefore => hne ?_
  have heq := (dropEnding?_eq_some_iff ending (front ++ [c]) before).mp hbefore
  have hlasts := congrArg List.getLast? heq
  rw [List.getLast?_append, List.getLast?_append, hlast] at hlasts
  exact (Option.some.inj hlasts).symm

/-! ## Pieces that are told from their front -/

section

variable {α β : Type} {put : α → List Char} {put' : β → List Char}

/-- It can be told from the front of a text which piece it begins with: no piece is the front of
another. -/
def PrefixFree (put : α → List Char) : Prop :=
  ∀ ⦃a b : α⦄ ⦃rest rest' : List Char⦄, put a ++ rest = put b ++ rest' → a = b ∧ rest = rest'

/-- No piece begins with the mark, or is empty. -/
def NeverBegins (put : α → List Char) (mark : Char) : Prop :=
  ∀ (a : α) (rest rest' : List Char), put a ++ rest ≠ mark :: rest'

theorem neverBegins_of_cons {mark : Char} (h : ∀ a, ∃ c cs, put a = c :: cs ∧ c ≠ mark) :
    NeverBegins put mark := by
  intro a rest rest' heq
  obtain ⟨c, cs, hput, hc⟩ := h a
  rw [hput, List.cons_append, List.cons.injEq] at heq
  exact hc heq.1

theorem intercalate_map_cons (separator : List Char) (a : α) (others : List α) :
    separator.intercalate ((a :: others).map put) =
      put a ++ others.flatMap fun b => separator ++ put b := by
  induction others generalizing a with
  | nil => simp
  | cons b others ih =>
    rw [List.map_cons, List.map_cons, List.intercalate_cons_cons, ← List.map_cons, ih,
      List.flatMap_cons, List.append_assoc, List.append_assoc]

/-- What holds of the characters of the pieces and of the separator holds of all. -/
theorem forall_mem_intercalate_map {P : Char → Prop} {separator : List Char}
    (hseparator : ∀ c ∈ separator, P c) (hput : ∀ a, ∀ c ∈ put a, P c) (all : List α) :
    ∀ c ∈ separator.intercalate (all.map put), P c := by
  intro c hc
  cases all with
  | nil => cases hc
  | cons a others =>
    rw [intercalate_map_cons, List.mem_append, List.mem_flatMap] at hc
    rcases hc with hc | ⟨b, -, hc⟩
    · exact hput a c hc
    · rcases List.mem_append.mp hc with hc | hc
      · exact hseparator c hc
      · exact hput b c hc

namespace PrefixFree

/-- A piece behind an opening. -/
theorem behind (h : PrefixFree put) (opening : List Char) :
    PrefixFree fun a => opening ++ put a := by
  intro a b rest rest' heq
  rw [List.append_assoc, List.append_assoc] at heq
  exact h (List.append_cancel_left heq)

/-- Two pieces, with a separator between them. -/
theorem pair (h : PrefixFree put) (h' : PrefixFree put') (separator : List Char) :
    PrefixFree fun e : α × β => put e.1 ++ separator ++ put' e.2 := by
  rintro ⟨a, b⟩ ⟨c, d⟩ rest rest' heq
  simp only [List.append_assoc] at heq
  obtain ⟨hfirst, hbehind⟩ := h heq
  obtain ⟨hsecond, hrest⟩ := h' (List.append_cancel_left hbehind)
  exact ⟨Prod.ext hfirst hsecond, hrest⟩

section

variable {closing : Char} (hclosing : NeverBegins put closing)

include hclosing

/-- Pieces one after the other, with a mark at their end that no piece begins with. -/
theorem closed (h : PrefixFree put) :
    PrefixFree fun all : List α => all.flatMap put ++ [closing] := by
  intro all all' rest rest' heq
  simp only [List.append_assoc, List.singleton_append] at heq
  induction all generalizing all' with
  | nil =>
    cases all' with
    | nil => exact ⟨rfl, (List.cons.inj heq).2⟩
    | cons b others =>
      rw [List.flatMap_cons, List.append_assoc] at heq
      exact absurd heq.symm (hclosing b _ _)
  | cons a others ih =>
    rw [List.flatMap_cons, List.append_assoc] at heq
    cases all' with
    | nil => exact absurd heq (hclosing a _ _)
    | cons b others' =>
      rw [List.flatMap_cons, List.append_assoc] at heq
      obtain ⟨hfirst, hbehind⟩ := h heq
      obtain ⟨hothers, hrest⟩ := ih hbehind
      exact ⟨by rw [hfirst, hothers], hrest⟩

/-- Pieces with separators between them, and a mark at their end that neither a piece nor the
separator begins with. -/
theorem separated (h : PrefixFree put) {first : Char} (hfirst : first ≠ closing)
    (separator : List Char) :
    PrefixFree fun all : List α =>
      (first :: separator).intercalate (all.map put) ++ [closing] := by
  have hseparator : NeverBegins (fun b => (first :: separator) ++ put b) closing :=
    neverBegins_of_cons fun b => ⟨first, separator ++ put b, rfl, hfirst⟩
  have hothers := (h.behind (first :: separator)).closed hseparator
  intro all all' rest rest' heq
  cases all with
  | nil =>
    cases all' with
    | nil => exact ⟨rfl, List.append_cancel_left heq⟩
    | cons b others' =>
      simp only [intercalate_map_cons, List.append_assoc] at heq
      exact absurd heq.symm (hclosing b _ _)
  | cons a others =>
    simp only [intercalate_map_cons, List.append_assoc] at heq
    cases all' with
    | nil => exact absurd heq (hclosing a _ _)
    | cons b others' =>
      simp only [intercalate_map_cons, List.append_assoc] at heq
      obtain ⟨hfirst, hbehind⟩ := h heq
      rw [← List.append_assoc, ← List.append_assoc] at hbehind
      obtain ⟨hbehind, hrest⟩ := hothers hbehind
      exact ⟨by rw [hfirst, hbehind], hrest⟩

end

end PrefixFree

end

end ScriptClient.Text
