import ScriptClient.Text.Hex

set_option autoImplicit false

/-! # JSON values

The values that a log line is made of, and their text: no spaces, members in the order given, and
escapes only where the format demands them. A written text holds no control character
(`no_control_quote`), so a value stays on one line. -/

namespace ScriptClient

/-- A JSON value. All numbers here are integers. -/
inductive Json where
  | null
  | bool (b : Bool)
  | number (n : Int)
  | text (s : String)
  | array (items : List Json)
  | object (members : List (String × Json))

namespace Json

/-- One character inside the quotes. -/
def escape (c : Char) : List Char :=
  if c = '"' then ['\\', '"']
  else if c = '\\' then ['\\', '\\']
  else if c = '\x08' then ['\\', 'b']
  else if c = '\t' then ['\\', 't']
  else if c = '\n' then ['\\', 'n']
  else if c = '\x0c' then ['\\', 'f']
  else if c = '\r' then ['\\', 'r']
  else if c.toNat < 0x20 then ['\\', 'u'] ++ Text.Hex.fixed 4 c.toNat
  else [c]

/-- A text in double quotes. -/
def quote (s : String) : List Char :=
  '"' :: s.toList.flatMap escape ++ ['"']

mutual

/-- The text of a value. -/
def write : Json → List Char
  | .null => ['n', 'u', 'l', 'l']
  | .bool b => (if b then "true" else "false").toList
  | .number n => (toString n).toList
  | .text s => quote s
  | .array items => '[' :: writeItems items ++ [']']
  | .object members => '\x7b' :: writeMembers members ++ ['\x7d']

/-- The items of an array, with commas between them. -/
def writeItems : List Json → List Char
  | [] => []
  | [v] => write v
  | v :: rest => write v ++ ',' :: writeItems rest

/-- The members of an object, with commas between them. -/
def writeMembers : List (String × Json) → List Char
  | [] => []
  | [(k, v)] => quote k ++ ':' :: write v
  | (k, v) :: rest => quote k ++ ':' :: write v ++ ',' :: writeMembers rest

end

/-- The text of a value. -/
def render (v : Json) : String :=
  String.ofList v.write

theorem no_control_digit (n : Nat) (h : n < 16) : 0x20 ≤ (Text.Hex.digit n).toNat := by
  have : ∀ m : Fin 16, 0x20 ≤ (Text.Hex.digit m.val).toNat := by decide
  exact this ⟨n, h⟩

theorem no_control_fixed (width n : Nat) : ∀ c ∈ Text.Hex.fixed width n, 0x20 ≤ c.toNat := by
  induction width generalizing n with
  | zero => simp [Text.Hex.fixed]
  | succ width ih =>
    intro c hc
    rw [Text.Hex.fixed, List.mem_append, List.mem_singleton] at hc
    rcases hc with hc | rfl
    · exact ih _ c hc
    · exact no_control_digit _ (Nat.mod_lt _ (by decide))

theorem no_control_escape (c : Char) : ∀ d ∈ escape c, 0x20 ≤ d.toNat := by
  intro d hd
  rw [escape] at hd
  split at hd
  · simp at hd; rcases hd with rfl | rfl <;> decide
  split at hd
  · simp at hd; subst hd; decide
  split at hd
  · simp at hd; rcases hd with rfl | rfl <;> decide
  split at hd
  · simp at hd; rcases hd with rfl | rfl <;> decide
  split at hd
  · simp at hd; rcases hd with rfl | rfl <;> decide
  split at hd
  · simp at hd; rcases hd with rfl | rfl <;> decide
  split at hd
  · simp at hd; rcases hd with rfl | rfl <;> decide
  split at hd
  · simp only [List.cons_append, List.nil_append, List.mem_cons] at hd
    rcases hd with rfl | rfl | hd
    · decide
    · decide
    · exact no_control_fixed 4 _ d hd
  next h => simp at hd; subst hd; omega

/-- No control character is left inside the quotes. -/
theorem no_control_quote (s : String) : ∀ c ∈ quote s, 0x20 ≤ c.toNat := by
  intro c hc
  simp only [quote, List.cons_append, List.mem_cons, List.mem_append, List.mem_flatMap,
    List.not_mem_nil, or_false] at hc
  rcases hc with rfl | ⟨d, _, hd⟩ | rfl
  · decide
  · exact no_control_escape d c hd
  · decide

end Json

end ScriptClient
