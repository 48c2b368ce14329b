set_option autoImplicit false

/-! # Pieces of a text

Cutting a text at a separator and taking a known ending off it. Joining the pieces gives the text
back (`intercalate_splitAt`), and an ending is taken off exactly when the text has it
(`dropEnding?_eq_some_iff`). -/

namespace ScriptClient.Text

/-- The pieces between the occurrences of `separator`; a text without one is its only piece. -/
def splitAt (separator : Char) : List Char → List (List Char)
  | [] => [[]]
  | c :: rest =>
    if c = separator then [] :: splitAt separator rest
    else match splitAt separator rest with
      | [] => [[c]]
      | piece :: pieces => (c :: piece) :: pieces

theorem splitAt_ne_nil (separator : Char) (cs : List Char) : splitAt separator cs ≠ [] := by
  cases cs with
  | nil => simp [splitAt]
  | cons c rest =>
    rw [splitAt]
    split
    · simp
    · split <;> simp

/-- Nothing but separators is lost between the pieces. -/
theorem intercalate_splitAt (separator : Char) (cs : List Char) :
    [separator].intercalate (splitAt separator cs) = cs := by
  induction cs with
  | nil => rfl
  | cons c rest ih =>
    rw [splitAt]
    split
    next h =>
      subst h
      cases hs : splitAt c rest with
      | nil => exact absurd hs (splitAt_ne_nil _ _)
      | cons piece pieces => rw [hs] at ih; simp [← ih, List.intercalate]
    next h =>
      split
      next hs => exact absurd hs (splitAt_ne_nil _ _)
      next piece pieces hs =>
        rw [hs] at ih
        cases pieces <;> simp_all [List.intercalate]

/-- The text without `ending`, if it ends so. -/
def dropEnding? (ending cs : List Char) : Option (List Char) :=
  if ending.isSuffixOf cs then some (cs.take (cs.length - ending.length)) else none

theorem dropEnding?_eq_some_iff (ending cs front : List Char) :
    dropEnding? ending cs = some front ↔ cs = front ++ ending := by
  rw [dropEnding?]
  split
  next h =>
    obtain ⟨before, rfl⟩ := List.isSuffixOf_iff_suffix.mp h
    simp
  next h =>
    simp only [reduceCtorEq, false_iff]
    rintro rfl
    exact h (List.isSuffixOf_iff_suffix.mpr ⟨front, rfl⟩)

end ScriptClient.Text
