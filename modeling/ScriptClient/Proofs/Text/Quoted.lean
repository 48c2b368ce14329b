import ScriptClient.Proofs.Text.Hex
import ScriptClient.Proofs.Text.Pieces
import ScriptClient.Text.Quoted

set_option autoImplicit false

/-! # Quoted texts tell what they quote

Every character inside the quotes has a form of its own that is not the front of another
(`prefixFree_escape`), and none of these forms begins with a quote. So it can be told where a quoted
text ends and what it quotes, whatever follows it (`prefixFree_encode`). It stands on one line
(`no_line_break_encode`). -/

namespace ScriptClient.Text.Quoted

/-! ## Characters inside quotes -/

/-- The letters behind a backslash, and the characters that they stand for. -/
def letters : List (Char × Char) :=
  [('0', '\x00'), ('t', '\t'), ('r', '\r'), ('n', '\n'), ('"', '"'), ('\\', '\\')]

/-- The ways to write a character: a backslash and its letter, its number, or itself. -/
inductive Writes : Char → List Char → Prop where
  | letter {c d : Char} (h : letters.lookup d = some c) : Writes c ['\\', d]
  | number (c : Char) : Writes c ('\\' :: 'u' :: '\x7b' :: (Hex.digits c.toNat ++ ['\x7d']))
  | plain {c : Char} (h : c ∉ letters.map (·.2)) : Writes c [c]

theorem writes_escape (c : Char) : Writes c (escape c) := by
  by_cases hletter : c ∈ letters.map (·.2)
  · simp only [letters, List.map_cons, List.map_nil, List.mem_cons, List.not_mem_nil,
      or_false] at hletter
    rcases hletter with rfl | rfl | rfl | rfl | rfl | rfl
    · exact .letter (d := '0') rfl
    · exact .letter (d := 't') rfl
    · exact .letter (d := 'r') rfl
    · exact .letter (d := 'n') rfl
    · exact .letter (d := '"') rfl
    · exact .letter (d := '\\') rfl
  · have hother := hletter
    simp only [letters, List.map_cons, List.map_nil, List.mem_cons, List.not_mem_nil, or_false,
      not_or] at hother
    obtain ⟨hnull, htab, hreturn, hfeed, hquote, hbackslash⟩ := hother
    rw [escape, if_neg hnull, if_neg htab, if_neg hreturn, if_neg hfeed, if_neg hquote,
      if_neg hbackslash]
    split
    next => exact .number c
    next => exact .plain hletter

/-- The digits of a number end at the brace behind them. -/
theorem digits_append_inj {m n : Nat} {rest rest' : List Char}
    (h : Hex.digits m ++ '\x7d' :: rest = Hex.digits n ++ '\x7d' :: rest') :
    m = n ∧ rest = rest' := by
  have hbrace := fun k rest => takeWhile_append_cons (p := Hex.isLower) (c := '\x7d')
    (fun c => Hex.isLower_of_mem_digits (n := k)) rfl rest
  have htake := congrArg (List.takeWhile Hex.isLower) h
  have hdrop := congrArg (List.dropWhile Hex.isLower) h
  rw [(hbrace m rest).1, (hbrace n rest').1] at htake
  rw [(hbrace m rest).2, (hbrace n rest').2] at hdrop
  exact ⟨Hex.digits_inj.mp htake, (List.cons.inj hdrop).2⟩

/-- Forms of different kinds begin differently, and within a kind it can be told where a form
ends. -/
theorem Writes.append_inj {c d : Char} {x y rest rest' : List Char} (hx : Writes c x)
    (hy : Writes d y) (h : x ++ rest = y ++ rest') : c = d ∧ rest = rest' := by
  have hnumber : ∀ {a : Char}, letters.lookup 'u' ≠ some a := nofun
  have hbackslash : '\\' ∈ letters.map (·.2) := by decide
  cases hx with
  | letter hletter =>
    cases hy with
    | letter hletter' =>
      obtain ⟨hsame, hrest⟩ := List.cons.inj (List.cons.inj h).2
      rw [hsame, hletter', Option.some.injEq] at hletter
      exact ⟨hletter.symm, hrest⟩
    | number =>
      rw [(List.cons.inj (List.cons.inj h).2).1] at hletter
      exact absurd hletter hnumber
    | plain hplain => exact absurd ((List.cons.inj h).1 ▸ hbackslash) hplain
  | number =>
    cases hy with
    | letter hletter =>
      rw [← (List.cons.inj (List.cons.inj h).2).1] at hletter
      exact absurd hletter hnumber
    | number =>
      simp only [List.cons_append, List.append_assoc, List.nil_append, List.cons.injEq,
        true_and] at h
      obtain ⟨hsame, hrest⟩ := digits_append_inj h
      exact ⟨Char.toNat_inj.mp hsame, hrest⟩
    | plain hplain => exact absurd ((List.cons.inj h).1 ▸ hbackslash) hplain
  | plain hplain =>
    cases hy with
    | letter => exact absurd ((List.cons.inj h).1 ▸ hbackslash) hplain
    | number => exact absurd ((List.cons.inj h).1 ▸ hbackslash) hplain
    | plain => exact List.cons.inj h

/-- **Characters inside quotes** can be told one by one. -/
theorem prefixFree_escape : PrefixFree escape :=
  fun c d _ _ => (writes_escape c).append_inj (writes_escape d)

/-- The quote at the end of a text does not stand for a character of it. -/
theorem neverBegins_escape : NeverBegins escape '"' := by
  refine neverBegins_of_cons fun c => ?_
  have hwrites := writes_escape c
  generalize escape c = x at hwrites
  cases hwrites with
  | letter => exact ⟨_, _, rfl, by decide⟩
  | number => exact ⟨_, _, rfl, by decide⟩
  | plain hplain =>
    refine ⟨_, _, rfl, fun hquote => hplain ?_⟩
    rw [hquote]
    decide

/-- No character is written with a line break. -/
theorem Writes.no_line_break {c d : Char} {x : List Char} (hx : Writes c x) (hd : d ∈ x) :
    d ≠ '\n' ∧ d ≠ '\r' := by
  cases hx with
  | letter hletter =>
    rw [List.mem_cons, List.mem_singleton] at hd
    rcases hd with rfl | rfl
    · decide
    · constructor
      · rintro rfl
        cases hletter
      · rintro rfl
        cases hletter
  | number =>
    simp only [List.mem_cons, List.mem_append, List.not_mem_nil, or_false] at hd
    rcases hd with rfl | rfl | rfl | hdigit | rfl
    · decide
    · decide
    · decide
    · have hvisible := (Hex.isLower_facts (Hex.isLower_of_mem_digits hdigit)).2.2.2.2.1
      constructor
      · rintro rfl
        exact absurd hvisible (by decide)
      · rintro rfl
        exact absurd hvisible (by decide)
    · decide
  | plain hplain =>
    rw [List.mem_singleton.mp hd]
    constructor
    · rintro rfl
      exact hplain (by decide)
    · rintro rfl
      exact hplain (by decide)

/-! ## Quoted texts -/

theorem toList_encode (s : String) :
    (encode s).toList = ['"'] ++ (s.toList.flatMap escape ++ ['"']) :=
  String.toList_ofList

/-- **Quoted texts** can be told from what follows them. -/
theorem prefixFree_encode : PrefixFree fun s => (encode s).toList := by
  intro s t rest rest' h
  have hclosed := (prefixFree_escape.closed neverBegins_escape).behind ['"']
  simp only [toList_encode] at h
  obtain ⟨hsame, hrest⟩ := hclosed h
  exact ⟨String.toList_inj.mp hsame, hrest⟩

/-- A quoted text has no line break. -/
theorem no_line_break_encode {s : String} {c : Char} (h : c ∈ (encode s).toList) :
    c ≠ '\n' ∧ c ≠ '\r' := by
  simp only [toList_encode, List.mem_append, List.mem_singleton, List.mem_flatMap] at h
  rcases h with rfl | ⟨d, -, hd⟩ | rfl
  · decide
  · exact (writes_escape d).no_line_break hd
  · decide

end ScriptClient.Text.Quoted
