set_option autoImplicit false

/-! # Blank characters

The characters with the property `White_Space`, and trimming of a text by them. A trimmed text
does not end with a blank (`getLast?_trim`). -/

namespace ScriptClient.Text

/-- The characters with the property `White_Space`: 25 code points in ten ranges. -/
def isBlank (c : Char) : Bool :=
  ('\t' ≤ c && c ≤ '\r') || c == ' ' || c == '\u0085' || c == '\u00a0' || c == '\u1680' ||
    ('\u2000' ≤ c && c ≤ '\u200a') || c == '\u2028' || c == '\u2029' || c == '\u202f' ||
    c == '\u205f' || c == '\u3000'

/-- Every character that the core library counts as white space is blank. -/
theorem isBlank_of_isWhitespace (c : Char) (h : c.isWhitespace = true) : isBlank c = true := by
  simp only [Char.isWhitespace, Bool.or_eq_true, decide_eq_true_eq] at h
  rcases h with ((rfl | rfl) | rfl) | rfl <;> decide

/-- Drops the trailing characters that satisfy `p`. -/
def dropTrailing (p : Char → Bool) (cs : List Char) : List Char :=
  (cs.reverse.dropWhile p).reverse

/-- Drops the characters that satisfy `p` from both ends. -/
def stripBoth (p : Char → Bool) (cs : List Char) : List Char :=
  dropTrailing p (cs.dropWhile p)

/-- Drops the blanks at both ends. -/
def trim (cs : List Char) : List Char :=
  stripBoth isBlank cs

theorem getLast?_dropTrailing (p : Char → Bool) (cs : List Char) (c : Char)
    (h : (dropTrailing p cs).getLast? = some c) : p c = false := by
  rw [dropTrailing, List.getLast?_reverse] at h
  exact List.head?_dropWhile_not p cs.reverse |> fun h' => by simpa [h] using h'

theorem dropTrailing_eq_self (p : Char → Bool) (cs : List Char)
    (h : ∀ c, cs.getLast? = some c → p c = false) : dropTrailing p cs = cs := by
  rw [dropTrailing]
  cases hr : cs.reverse with
  | nil => simp [List.reverse_eq_nil_iff.mp hr]
  | cons c rest =>
    have hc : p c = false := h c (by rw [← List.head?_reverse, hr]; rfl)
    rw [List.dropWhile_cons_of_neg (by simp [hc]), ← hr, List.reverse_reverse]

theorem getLast?_trim (cs : List Char) (c : Char) (h : (trim cs).getLast? = some c) :
    isBlank c = false :=
  getLast?_dropTrailing isBlank _ c h

end ScriptClient.Text
