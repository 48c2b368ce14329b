import ScriptClient.Proofs.Json.Reader
import ScriptClient.Proofs.Text.Decimal
import ScriptClient.Proofs.Text.Hex
import ScriptClient.Proofs.Text.Pieces

set_option autoImplicit false

/-! # Reading what was written

A written value is read back exactly, whatever its texts hold (`read?_render`), and stands on one
line (`no_control_write`). Both follow the structure of the value: a part is read off the front of
a text as long as what follows does not go on with digits. -/

namespace ScriptClient.Json

/-! ## Texts -/

theorem readUnit?_fixed {n : Nat} (h : n < 0x10000) (rest : List Char) :
    readUnit? (Text.Hex.fixed 4 n ++ rest) = some (n, rest) := by
  have hdigit : ∀ m, Text.Hex.value? (Text.Hex.digit (m % 16)) = some (m % 16) :=
    fun m => Text.Hex.value?_digit _ (Nat.mod_lt _ (by decide))
  have hread : readUnit? (Text.Hex.fixed 4 n ++ rest) =
      some (((n / 16 / 16 / 16 % 16 * 16 + n / 16 / 16 % 16) * 16 + n / 16 % 16) * 16 + n % 16,
        rest) := by
    simp only [Text.Hex.fixed, List.nil_append, List.cons_append, readUnit?, hdigit,
      Option.bind_eq_bind, Option.bind_some]
  rw [hread]
  congr
  omega

/-- A character stands for itself, or it has an escape, which is one letter or its number. -/
theorem escape_cases (c : Char) :
    (∃ d, escape c = ['\\', d] ∧ d ≠ 'u' ∧ shortEscapes.lookup d = some c) ∨
      (escape c = '\\' :: 'u' :: Text.Hex.fixed 4 c.toNat ∧ c.toNat < 0x20) ∨
      (escape c = [c] ∧ c ≠ '\\' ∧ c ≠ '"' ∧ 0x20 ≤ c.toNat) := by
  by_cases hshort : c ∈ ['"', '\\', '\x08', '\t', '\n', '\x0c', '\r']
  · simp only [List.mem_cons, List.not_mem_nil, or_false] at hshort
    rcases hshort with rfl | rfl | rfl | rfl | rfl | rfl | rfl
    · exact .inl ⟨'"', by decide⟩
    · exact .inl ⟨'\\', by decide⟩
    · exact .inl ⟨'b', by decide⟩
    · exact .inl ⟨'t', by decide⟩
    · exact .inl ⟨'n', by decide⟩
    · exact .inl ⟨'f', by decide⟩
    · exact .inl ⟨'r', by decide⟩
  · simp only [List.mem_cons, List.not_mem_nil, or_false, not_or] at hshort
    obtain ⟨hquote, hbackslash, hb, ht, hn, hf, hr⟩ := hshort
    rw [escape, if_neg hquote, if_neg hbackslash, if_neg hb, if_neg ht, if_neg hn, if_neg hf,
      if_neg hr]
    by_cases hcontrol : c.toNat < 0x20
    · exact .inr (.inl ⟨if_pos hcontrol, hcontrol⟩)
    · exact .inr (.inr ⟨if_neg hcontrol, hbackslash, hquote, Nat.le_of_not_lt hcontrol⟩)

/-- A character is read back from its escape. -/
theorem readChar?_escape (c : Char) (rest : List Char) :
    readChar? (escape c ++ rest) = some (c, rest) := by
  rcases escape_cases c with ⟨d, hescape, hletter, hlookup⟩ | ⟨hescape, hcontrol⟩ |
    ⟨hescape, hbackslash, hquote, hplain⟩
  · rw [hescape]
    show readEscape? (d :: rest) = some (c, rest)
    rw [readEscape?, if_neg hletter, hlookup, Option.map_some]
  · rw [hescape]
    show readNumbered? (Text.Hex.fixed 4 c.toNat ++ rest) = some (c, rest)
    simp only [readNumbered?, readUnit?_fixed (show c.toNat < 0x10000 by omega) rest,
      Option.bind_eq_bind, Option.bind_some]
    rw [if_pos (by omega), Char.ofNat_toNat]
  · rw [hescape]
    show readChar? (c :: rest) = some (c, rest)
    rw [readChar?, if_neg hbackslash, if_neg (not_or.mpr ⟨hquote, Nat.not_lt.mpr hplain⟩)]

/-- An escape is not empty, and does not begin with a quote. -/
theorem escape_eq_cons (c : Char) : ∃ d ds, escape c = d :: ds ∧ d ≠ '"' := by
  rcases escape_cases c with ⟨d, hescape, -, -⟩ | ⟨hescape, -⟩ | ⟨hescape, -, hquote, -⟩
  · exact ⟨_, _, hescape, by decide⟩
  · exact ⟨_, _, hescape, by decide⟩
  · exact ⟨_, _, hescape, hquote⟩

/-- A text is read back from between its quotes. -/
theorem readText_escaped (cs : List Char) {fuel : Nat} (rest : List Char)
    (hfuel : (cs.flatMap escape).length < fuel) :
    readText fuel (cs.flatMap escape ++ '"' :: rest) = some (cs, rest) := by
  induction cs generalizing fuel with
  | nil =>
    obtain ⟨fuel, rfl⟩ := Nat.exists_eq_add_one.mpr hfuel
    rfl
  | cons c cs ih =>
    obtain ⟨fuel, rfl⟩ := Nat.exists_eq_add_one.mpr (Nat.zero_lt_of_lt hfuel)
    obtain ⟨d, ds, hescape, hquote⟩ := escape_eq_cons c
    have hmore : (cs.flatMap escape).length < fuel := by
      simp only [List.flatMap_cons, List.length_append, hescape, List.length_cons] at hfuel
      omega
    have hhead : (escape c ++ (cs.flatMap escape ++ '"' :: rest)).head? ≠ some '"' := by
      simp [hescape, hquote]
    rw [List.flatMap_cons, List.append_assoc, readText, if_neg hhead, readChar?_escape]
    simp only [Option.bind_eq_bind, Option.bind_some, ih hmore]

/-! ## Numbers -/

/-- Whether a text does not go on with digits. -/
def EndsNumber (rest : List Char) : Prop :=
  ∀ c ∈ rest.head?, c.isDigit = false

theorem readNatural?_toDigits (n : Nat) {rest : List Char} (hrest : EndsNumber rest) :
    readNatural? (Nat.toDigits 10 n ++ rest) = some (n, rest) := by
  have hdigits : ∀ c ∈ Nat.toDigits 10 n, c.isDigit = true := fun _ =>
    Text.Decimal.isDigit_of_mem_toDigits
  obtain ⟨htake, hdrop⟩ := Text.takeWhile_append_of_head hdigits hrest
  have hzeros : ¬ (Nat.toDigits 10 n = [] ∨
      ((Nat.toDigits 10 n).head? = some '0' ∧ 1 < (Nat.toDigits 10 n).length)) := by
    rintro (hnil | ⟨hhead, hlong⟩)
    · exact Nat.toDigits_ne_nil hnil
    · rw [Text.Decimal.eq_zero_of_head?_toDigits hhead] at hlong
      exact absurd hlong (by decide)
  simp only [readNatural?, htake, hdrop, if_neg hzeros, Nat.ofDigitChars_ten_toDigits]

/-- A number is read back from its digits and sign. -/
theorem readNumber?_toString (n : Int) {rest : List Char} (hrest : EndsNumber rest) :
    readNumber? ((toString n).toList ++ rest) = some (.number n, rest) := by
  rw [Text.Decimal.toList_toString_int]
  split
  next hpos =>
    obtain ⟨d, ds, hdigits⟩ := List.exists_cons_of_ne_nil
      (Nat.toDigits_ne_nil : Nat.toDigits 10 n.toNat ≠ [])
    have hd : d ≠ '-' := by
      rintro rfl
      have hsign : '-' ∈ Nat.toDigits 10 n.toNat := hdigits ▸ List.mem_cons_self
      exact absurd (Text.Decimal.isDigit_of_mem_toDigits hsign) (by decide)
    have hhead : (Nat.toDigits 10 n.toNat ++ rest).head? ≠ some '-' := by
      simp [hdigits, hd]
    rw [readNumber?, if_neg hhead, readNatural?_toDigits _ hrest]
    simp [Int.toNat_of_nonneg hpos]
  next hneg =>
    show (readNatural? (Nat.toDigits 10 (-n).toNat ++ rest)).map _ = _
    rw [readNatural?_toDigits _ hrest]
    simp only [Option.map_some]
    congr
    omega

/-- The characters that a number cannot begin with, and that decide what a value is. -/
def marks : List Char :=
  [' ', '\t', '\n', '\r', '"', '[', ']', '\x7b', '\x7d', 'n', 't', 'f']

theorem toString_eq_cons (n : Int) : ∃ c cs, (toString n).toList = c :: cs ∧ c ∉ marks := by
  have hne : (toString n).toList ≠ [] := by
    rw [Text.Decimal.toList_toString_int]
    split
    · exact Nat.toDigits_ne_nil
    · exact List.cons_ne_nil _ _
  obtain ⟨c, cs, hcs⟩ := List.exists_cons_of_ne_nil hne
  have hmarks : (marks.all fun d => !d.isDigit && d != '-') = true := by decide
  refine ⟨c, cs, hcs, fun hmark => ?_⟩
  have hother := List.all_eq_true.mp hmarks c hmark
  rcases Text.Decimal.mem_toString_int (hcs ▸ List.mem_cons_self : c ∈ (toString n).toList) with
    hdigit | rfl
  · rw [hdigit] at hother
    exact absurd hother Bool.false_ne_true
  · exact absurd hother (by decide)

/-! ## Values -/

/-- Induction over values: what holds of all items holds of their array, and what holds of the
values of all members holds of their object. -/
@[elab_as_elim]
theorem induction {motive : Json → Prop} (null : motive .null) (bool : ∀ b, motive (.bool b))
    (number : ∀ n, motive (.number n)) (text : ∀ s, motive (.text s))
    (array : ∀ items, (∀ v ∈ items, motive v) → motive (.array items))
    (object : ∀ members, (∀ m ∈ members, motive m.2) → motive (.object members)) :
    (v : Json) → motive v
  | .null => null
  | .bool b => bool b
  | .number n => number n
  | .text s => text s
  | .array items => array items fun v _ => induction null bool number text array object v
  | .object members =>
    object members fun m _ => induction null bool number text array object m.2
termination_by v => sizeOf v
decreasing_by
  · next hv =>
    have hitem := List.sizeOf_lt_of_mem hv
    rw [Json.array.sizeOf_spec]
    omega
  · next hm =>
    have hmember := List.sizeOf_lt_of_mem hm
    have hvalue : sizeOf m.2 < sizeOf m := by
      rw [Prod.mk.sizeOf_spec]
      omega
    rw [Json.object.sizeOf_spec]
    omega

theorem skipSpace_cons {c : Char} (h : isSpace c = false) (rest : List Char) :
    skipSpace (c :: rest) = c :: rest :=
  List.dropWhile_cons_of_neg (by rw [h]; exact Bool.false_ne_true)

theorem expect?_cons {c : Char} (h : isSpace c = false) (mark : Char) (rest : List Char) :
    expect? mark (c :: rest) = if c = mark then some rest else none := by
  rw [expect?, skipSpace_cons h]

/-- What a value begins with is neither a blank nor the end of an array. -/
theorem write_eq_cons (v : Json) : ∃ c cs, v.write = c :: cs ∧ isSpace c = false ∧ c ≠ ']' := by
  cases v with
  | null => exact ⟨_, _, rfl, by decide, by decide⟩
  | bool b => cases b <;> exact ⟨_, _, rfl, by decide, by decide⟩
  | number n =>
    obtain ⟨c, cs, hcs, hmark⟩ := toString_eq_cons n
    refine ⟨c, cs, hcs, ?_, fun hc => hmark (by rw [hc]; decide)⟩
    simp only [marks, List.mem_cons, not_or] at hmark
    simp [isSpace, hmark]
  | text s => exact ⟨_, _, rfl, by decide, by decide⟩
  | array items => exact ⟨_, _, rfl, by decide, by decide⟩
  | object members => exact ⟨_, _, rfl, by decide, by decide⟩

/-- Whether the text of a value is read off the front of every text that does not go on with
digits, in as many steps as it has characters. -/
def Reads (v : Json) : Prop :=
  ∀ fuel rest, v.write.length ≤ fuel + 1 → EndsNumber rest →
    readValue (fuel + 1) (v.write ++ rest) = some (v, rest)

theorem Reads.in_front {v : Json} (h : v.Reads) {fuel : Nat} (hfuel : v.write.length ≤ fuel)
    (mark : Char) (hmark : mark.isDigit = false) (rest : List Char) :
    readValue fuel (v.write ++ mark :: rest) = some (v, mark :: rest) := by
  obtain ⟨c, cs, hcs, -, -⟩ := write_eq_cons v
  obtain ⟨fuel, rfl⟩ : ∃ n, fuel = n + 1 := by
    rw [hcs, List.length_cons] at hfuel
    exact Nat.exists_eq_add_one.mpr (by omega)
  refine h fuel _ hfuel ?_
  rintro d ⟨⟩
  exact hmark

theorem reads_number (n : Int) : (number n).Reads := by
  intro fuel rest _ hrest
  obtain ⟨c, cs, hcs, hmark⟩ := toString_eq_cons n
  have hread := readNumber?_toString n hrest
  simp only [marks, List.mem_cons, not_or] at hmark
  have hspace : isSpace c = false := by simp [isSpace, hmark]
  rw [write]
  rw [hcs, List.cons_append] at hread ⊢
  simp only [readValue, skipSpace_cons hspace, hmark, if_false, hread]

/-- A text in quotes is read back, after its first quote. -/
theorem readText_quote (s : String) {fuel : Nat} (rest : List Char)
    (hfuel : (quote s).length ≤ fuel + 1) :
    ∃ cs, quote s ++ rest = '"' :: cs ∧ readText fuel cs = some (s.toList, rest) := by
  have hlength : (quote s).length = (s.toList.flatMap escape).length + 2 := by
    simp [quote]
  exact ⟨_, by simp [quote], readText_escaped s.toList rest (by omega)⟩

theorem reads_text (s : String) : (text s).Reads := by
  intro fuel rest hfuel _
  obtain ⟨cs, hquote, hread⟩ := readText_quote s rest hfuel
  rw [write, hquote]
  show (readText fuel cs).map _ = _
  simp only [hread, Option.map_some, String.ofList_toList]

/-! ## Arrays and objects -/

section

variable {α : Type} {read : List Char → Option (α × List Char)} {put : α → List Char}
  {closing : Char}

/-- What was written with commas between and a mark at the end is read back, if each part is. -/
theorem readMany_intercalate (hspace : isSpace closing = false) (hcomma : closing ≠ ',')
    (hdigit : closing.isDigit = false) {all : List α} (hne : all ≠ [])
    (hread : ∀ a ∈ all, ∀ mark, mark.isDigit = false → ∀ rest,
      read (put a ++ mark :: rest) = some (a, mark :: rest))
    (rest : List Char) {fuel : Nat} (hfuel : all.length ≤ fuel) :
    readMany read closing fuel ([','].intercalate (all.map put) ++ closing :: rest) =
      some (all, rest) := by
  induction all generalizing fuel with
  | nil => exact absurd rfl hne
  | cons a others ih =>
    obtain ⟨fuel, rfl⟩ := Nat.exists_eq_add_one.mpr (Nat.zero_lt_of_lt hfuel)
    have ha := hread a List.mem_cons_self
    cases others with
    | nil =>
      have hlast : read (put a ++ closing :: rest) = some (a, closing :: rest) :=
        ha closing hdigit rest
      rw [List.map_singleton, List.intercalate_singleton, readMany, hlast]
      simp only [Option.bind_eq_bind, Option.bind_some, expect?_cons hspace, if_neg hcomma, if_true,
        Option.map_some]
    | cons b others =>
      have hfirst : ∀ rest, read (put a ++ ',' :: rest) = some (a, ',' :: rest) :=
        ha ',' rfl
      have hothers := ih (List.cons_ne_nil b others)
        (fun c hc => hread c (List.mem_cons_of_mem a hc)) (Nat.le_of_succ_le_succ hfuel)
      have htext : [','].intercalate ((a :: b :: others).map put) ++ closing :: rest =
          put a ++ ',' :: ([','].intercalate ((b :: others).map put) ++ closing :: rest) := by
        simp
      rw [htext, readMany, hfirst]
      simp only [Option.bind_eq_bind, Option.bind_some, expect?_cons (c := ',') rfl, if_true,
        hothers, Option.map_some]

/-- Parts that are not empty are no more than there are characters in what is made of them, and each
is no longer. -/
theorem length_le_intercalate {all : List α} (hput : ∀ a ∈ all, put a ≠ []) :
    all.length ≤ ([','].intercalate (all.map put)).length ∧
      ∀ a ∈ all, (put a).length ≤ ([','].intercalate (all.map put)).length := by
  induction all with
  | nil => exact ⟨Nat.le_refl 0, nofun⟩
  | cons a others ih =>
    have ha : 0 < (put a).length := List.length_pos_iff.mpr (hput a List.mem_cons_self)
    obtain ⟨hcount, hparts⟩ := ih fun b hb => hput b (List.mem_cons_of_mem a hb)
    have hlength : others.length + (put a).length ≤
          ([','].intercalate ((a :: others).map put)).length ∧
        ([','].intercalate (others.map put)).length ≤
          ([','].intercalate ((a :: others).map put)).length := by
      cases others with
      | nil => simp
      | cons b others =>
        rw [List.map_cons, List.map_cons, List.intercalate_cons_cons, ← List.map_cons]
        simp only [List.length_append]
        omega
    refine ⟨by rw [List.length_cons]; omega, fun c hc => ?_⟩
    rcases List.mem_cons.mp hc with rfl | hc
    · omega
    · exact Nat.le_trans (hparts c hc) hlength.2

theorem readAll_intercalate (hspace : isSpace closing = false) (hcomma : closing ≠ ',')
    (hdigit : closing.isDigit = false) {all : List α}
    (hput : ∀ a ∈ all, ∃ c cs, put a = c :: cs ∧ isSpace c = false ∧ c ≠ closing)
    {fuel : Nat} (hfuel : ([','].intercalate (all.map put)).length ≤ fuel)
    (hread : ∀ a ∈ all, (put a).length ≤ fuel → ∀ mark, mark.isDigit = false → ∀ rest,
      read (put a ++ mark :: rest) = some (a, mark :: rest)) (rest : List Char) :
    readAll read closing fuel ([','].intercalate (all.map put) ++ closing :: rest) =
      some (all, rest) := by
  have hne : ∀ a ∈ all, put a ≠ [] := by
    intro a ha
    obtain ⟨c, cs, hcs, -⟩ := hput a ha
    rw [hcs]
    exact List.cons_ne_nil c cs
  obtain ⟨hcount, hparts⟩ := length_le_intercalate hne
  cases all with
  | nil =>
    show readAll read closing fuel (closing :: rest) = _
    rw [readAll, expect?_cons hspace, if_pos rfl]
  | cons a others =>
    obtain ⟨c, cs, hcs, hblank, hc⟩ := hput a List.mem_cons_self
    obtain ⟨cs', hhead⟩ : ∃ cs', [','].intercalate ((a :: others).map put) = c :: cs' := by
      cases others with
      | nil => exact ⟨cs, by rw [List.map_singleton, List.intercalate_singleton, hcs]⟩
      | cons b others =>
        refine ⟨cs ++ [','] ++ [','].intercalate ((b :: others).map put), ?_⟩
        rw [List.map_cons, List.map_cons, List.intercalate_cons_cons, hcs]
        rfl
    have hopen : expect? closing
        ([','].intercalate ((a :: others).map put) ++ closing :: rest) = none := by
      rw [hhead, List.cons_append, expect?_cons hblank, if_neg hc]
    rw [readAll, hopen]
    exact readMany_intercalate hspace hcomma hdigit (List.cons_ne_nil a others)
      (fun b hb => hread b hb (Nat.le_trans (hparts b hb) hfuel)) rest (Nat.le_trans hcount hfuel)

end

theorem writeItems_eq (items : List Json) :
    writeItems items = [','].intercalate (items.map write) := by
  induction items with
  | nil => rfl
  | cons v items ih =>
    cases items with
    | nil => simp [writeItems]
    | cons w items => simp [writeItems, ih]

theorem reads_array {items : List Json} (h : ∀ v ∈ items, v.Reads) : (array items).Reads := by
  intro fuel rest hfuel _
  have hwrite : (array items).write ++ rest =
      '[' :: ([','].intercalate (items.map write) ++ ']' :: rest) := by
    simp [write, writeItems_eq]
  have hlength : ([','].intercalate (items.map write)).length ≤ fuel := by
    simp [write, writeItems_eq] at hfuel
    omega
  rw [hwrite]
  show (readAll (readValue fuel) ']' fuel _).map _ = _
  rw [readAll_intercalate rfl (by decide) rfl (fun v _ => v.write_eq_cons) hlength
    (fun v hv hfuel => (h v hv).in_front hfuel) rest]
  rfl

/-- The text of a member. -/
def writeMember (m : String × Json) : List Char :=
  quote m.1 ++ ':' :: m.2.write

theorem writeMembers_eq (members : List (String × Json)) :
    writeMembers members = [','].intercalate (members.map writeMember) := by
  induction members with
  | nil => rfl
  | cons m members ih =>
    cases members with
    | nil => simp [writeMembers, writeMember]
    | cons m' members => simp [writeMembers, writeMember, ih]

theorem readMember_write {m : String × Json} (h : m.2.Reads) {fuel : Nat}
    (hfuel : (writeMember m).length ≤ fuel) (mark : Char) (hmark : mark.isDigit = false)
    (rest : List Char) :
    readMember (readValue fuel) fuel (writeMember m ++ mark :: rest) = some (m, mark :: rest) := by
  rw [writeMember, List.length_append, List.length_cons] at hfuel
  have hlengths : (quote m.1).length ≤ fuel + 1 ∧ m.2.write.length ≤ fuel := by omega
  obtain ⟨cs, hquote, hkey⟩ :=
    readText_quote m.1 (':' :: (m.2.write ++ mark :: rest)) hlengths.1
  have hvalue := h.in_front hlengths.2 mark hmark rest
  rw [writeMember, List.append_assoc, List.cons_append, hquote, readMember]
  simp only [Option.bind_eq_bind, expect?_cons (c := '"') rfl, if_true, Option.bind_some, hkey,
    expect?_cons (c := ':') rfl, hvalue, String.ofList_toList]

theorem reads_object {members : List (String × Json)} (h : ∀ m ∈ members, m.2.Reads) :
    (object members).Reads := by
  intro fuel rest hfuel _
  have hwrite : (object members).write ++ rest =
      '\x7b' :: ([','].intercalate (members.map writeMember) ++ '\x7d' :: rest) := by
    simp [write, writeMembers_eq]
  have hlength : ([','].intercalate (members.map writeMember)).length ≤ fuel := by
    simp [write, writeMembers_eq] at hfuel
    omega
  have hput : ∀ m ∈ members, ∃ c cs, writeMember m = c :: cs ∧ isSpace c = false ∧ c ≠ '\x7d' :=
    fun m _ => ⟨'"', _, rfl, rfl, by decide⟩
  rw [hwrite]
  show (readAll (readMember (readValue fuel) fuel) '\x7d' fuel _).map _ = _
  rw [readAll_intercalate rfl (by decide) rfl hput hlength
    (fun m hm hfuel => readMember_write (h m hm) hfuel) rest]
  rfl

/-! ## Whole texts -/

theorem reads (v : Json) : v.Reads := by
  induction v using Json.induction with
  | null => exact fun _ _ _ _ => rfl
  | bool b => cases b <;> exact fun _ _ _ _ => rfl
  | number n => exact reads_number n
  | text s => exact reads_text s
  | array items ih => exact reads_array ih
  | object members ih => exact reads_object ih

/-- **Round trip.** What is written of a value is read back as that value. -/
theorem read?_render (v : Json) : read? v.render = some v := by
  obtain ⟨c, cs, hcs, -, -⟩ := v.write_eq_cons
  have hread := v.reads cs.length [] (by rw [hcs]; exact Nat.le_refl _) nofun
  rw [List.append_nil, ← List.length_cons (a := c), ← hcs] at hread
  simp only [read?, render, String.toList_ofList, hread]
  rfl

-- Other texts of a value are read, too, but nothing that the grammar does not allow.
example : read? " [ 1 ,\n-2 ]" = some (.array [.number 1, .number (-2)]) := by rfl

example : ["[1,]", "01", "\"\t\""].all (fun text => (read? text).isNone) = true := by decide

/-! ## One line -/

theorem of_mem_intercalate {parts : List (List Char)} {c : Char}
    (h : c ∈ [','].intercalate parts) : c = ',' ∨ ∃ part ∈ parts, c ∈ part := by
  induction parts with
  | nil => exact absurd h List.not_mem_nil
  | cons part parts ih =>
    cases parts with
    | nil =>
      rw [List.intercalate_singleton] at h
      exact .inr ⟨part, List.mem_cons_self, h⟩
    | cons next parts =>
      rw [List.intercalate_cons_cons, List.append_assoc, List.mem_append, List.mem_append,
        List.mem_singleton] at h
      rcases h with h | h | h
      · exact .inr ⟨part, List.mem_cons_self, h⟩
      · exact .inl h
      · exact (ih h).imp_right fun ⟨l, hl, hc⟩ => ⟨l, List.mem_cons_of_mem _ hl, hc⟩

theorem no_control_word {cs : List Char} (h : (cs.all fun c => 0x20 ≤ c.toNat) = true) :
    ∀ c ∈ cs, 0x20 ≤ c.toNat :=
  fun c hc => of_decide_eq_true (List.all_eq_true.mp h c hc)

/-- Brackets and commas are no control characters. -/
theorem no_control_brackets {opening closing : Char} {parts : List (List Char)}
    (hopening : 0x20 ≤ opening.toNat) (hclosing : 0x20 ≤ closing.toNat)
    (hparts : ∀ part ∈ parts, ∀ c ∈ part, 0x20 ≤ c.toNat) :
    ∀ c ∈ opening :: [','].intercalate parts ++ [closing], 0x20 ≤ c.toNat := by
  intro c hc
  rw [List.cons_append, List.mem_cons, List.mem_append, List.mem_singleton] at hc
  rcases hc with rfl | hc | rfl
  · exact hopening
  · rcases of_mem_intercalate hc with rfl | ⟨part, hpart, hc⟩
    · decide
    · exact hparts part hpart c hc
  · exact hclosing

/-- No control character is left in the text of a value. -/
theorem no_control_write (v : Json) : ∀ c ∈ v.write, 0x20 ≤ c.toNat := by
  induction v using Json.induction with
  | null => exact no_control_word (by decide)
  | bool b => cases b <;> exact no_control_word (by decide)
  | number n =>
    intro c hc
    rcases Text.Decimal.mem_toString_int hc with hdigit | rfl
    · exact Text.Decimal.no_control_of_isDigit hdigit
    · decide
  | text s => exact no_control_quote s
  | array items ih =>
    rw [write, writeItems_eq]
    refine no_control_brackets (by decide) (by decide) fun part hpart => ?_
    obtain ⟨v, hv, rfl⟩ := List.mem_map.mp hpart
    exact ih v hv
  | object members ih =>
    rw [write, writeMembers_eq]
    refine no_control_brackets (by decide) (by decide) fun part hpart c hc => ?_
    obtain ⟨m, hm, rfl⟩ := List.mem_map.mp hpart
    rw [writeMember, List.mem_append, List.mem_cons] at hc
    rcases hc with hc | rfl | hc
    · exact no_control_quote m.1 c hc
    · decide
    · exact ih m hm c hc

end ScriptClient.Json
