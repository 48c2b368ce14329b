set_option autoImplicit false

/-! # Positions in a text

A position counts the bytes before it. A text can be cut at the position after any of its
characters (`splitAtByte?_append`, `cut?_append`), and at no position inside a character. -/

namespace ScriptClient.Text

/-- The number of bytes of a text. -/
def byteCount (cs : List Char) : Nat :=
  cs.foldr (fun c n => c.utf8Size + n) 0

@[simp]
theorem byteCount_nil : byteCount [] = 0 := rfl

@[simp]
theorem byteCount_cons (c : Char) (cs : List Char) :
    byteCount (c :: cs) = c.utf8Size + byteCount cs := rfl

/-- The text before a position and the text after it, if the position lies between characters. -/
def splitAtByte? : (position : Nat) → List Char → Option (List Char × List Char)
  | 0, cs => some ([], cs)
  | _ + 1, [] => none
  | position + 1, c :: rest =>
    if c.utf8Size ≤ position + 1 then
      match splitAtByte? (position + 1 - c.utf8Size) rest with
      | some (front, rest') => some (c :: front, rest')
      | none => none
    else none

theorem splitAtByte?_append (front rest : List Char) :
    splitAtByte? (byteCount front) (front ++ rest) = some (front, rest) := by
  induction front with
  | nil => simp [splitAtByte?]
  | cons c front ih =>
    have hpos := c.utf8Size_pos
    obtain ⟨n, hn⟩ : ∃ n, byteCount (c :: front) = n + 1 :=
      ⟨c.utf8Size + byteCount front - 1, by rw [byteCount_cons]; omega⟩
    have hrest : n + 1 - c.utf8Size = byteCount front := by rw [← hn, byteCount_cons]; omega
    rw [hn, List.cons_append, splitAtByte?, if_pos (by rw [← hn, byteCount_cons]; omega), hrest, ih]

/-- The text between two positions, if both lie between characters. -/
def cut? (start stop : Nat) (cs : List Char) : Option (List Char) :=
  match splitAtByte? start cs with
  | none => none
  | some (_, rest) => (splitAtByte? (stop - start) rest).map (·.1)

theorem cut?_append (front part rest : List Char) :
    cut? (byteCount front) (byteCount front + byteCount part) (front ++ (part ++ rest)) =
      some part := by
  rw [cut?, splitAtByte?_append]
  simp only [Nat.add_sub_cancel_left, splitAtByte?_append, Option.map_some]

end ScriptClient.Text
