import ScriptClient.Proofs.Wire.Grammar
import ScriptClient.Proofs.Wire.Schema

set_option autoImplicit false

/-! # Fields of later schemas

A message may have fields that its reader does not know. Between complete fields and any other bytes
such a field makes no difference (`Schema.decode_unknown`): what a reader makes of a complete value
is settled by the value, whatever bytes follow (`Field.SettledFor`). Maps are the exception, since
they take any value for one with a length. -/

namespace ScriptClient.Wire

/-! ## Settled values -/

/-- The bytes are a value of a field with this key, its groups nested however deep. -/
def IsValue (key : Key) (bytes : List UInt8) : Prop :=
  ∃ levels, Value levels key bytes

/-- What a reader makes of a value does not depend on the bytes after it, and it leaves those
alone. -/
def Settled {α : Type} (read : List UInt8 → Option (α × List UInt8)) (value : List UInt8) : Prop :=
  (∀ rest, read (value ++ rest) = none) ∨ ∃ a, ∀ rest, read (value ++ rest) = some (a, rest)

theorem IsValue.spells {key : Key} {bytes : List UInt8} (h : IsValue key bytes)
    (hwire : key.wire = .varint) : ∃ n, Varint.Spells 9 bytes n := by
  obtain ⟨tag, wire⟩ := key
  obtain ⟨levels, h⟩ := h
  cases hwire
  exact h.succ

theorem IsValue.delimits {key : Key} {bytes : List UInt8} (h : IsValue key bytes)
    (hwire : key.wire = .delimited) : ∃ content, Delimits bytes content := by
  obtain ⟨tag, wire⟩ := key
  obtain ⟨levels, h⟩ := h
  cases hwire
  exact h.succ

namespace Field

variable {M : Type} {tag : Nat} {wire : WireType}

/-- A field with this wire type settles what becomes of a message. -/
def SettledFor (field : Field M) (wire : WireType) : Prop :=
  ∀ (budget : Nat) (m : M) (key : Key) (value : List UInt8), key.wire = wire → IsValue key value →
    Settled (field.read budget wire m) value

theorem settledFor_of_refuses {field : Field M}
    (h : ∀ budget m bytes, field.read budget wire m bytes = none) : field.SettledFor wire :=
  fun budget m _ _ _ _ => .inl fun _ => h budget m _

theorem settledFor_scalar {α : Type} [DecidableEq α] (kind : Scalar α) (get : M → α)
    (set : M → α → M) : (scalar kind tag get set).SettledFor wire := by
  by_cases hwire : wire = .varint
  · intro budget m key value hkey hvalue
    obtain ⟨n, hspells⟩ := hvalue.spells (hkey.trans hwire)
    refine .inr ⟨set m (kind.ofNat n), fun rest => ?_⟩
    show (if wire = .varint then (Varint.read? (value ++ rest)).map _ else none) = _
    rw [if_pos hwire, hspells.read?_append rest]
    rfl
  · exact settledFor_of_refuses fun _ _ _ => if_neg hwire

theorem settled_readContent (use : List UInt8 → Option M) {value content : List UInt8}
    (h : Delimits value content) : Settled (readContent use) value := by
  have hread : ∀ rest, readContent use (value ++ rest) = (use content).map fun m => (m, rest) := by
    intro rest
    rw [readContent, h.readDelimited?_append rest, Option.bind_some]
  cases huse : use content with
  | none => exact .inl fun rest => by rw [hread, huse]; rfl
  | some m => exact .inr ⟨m, fun rest => by rw [hread, huse]; rfl⟩

/-- A field that is read by its length settles every value with a length. -/
theorem settledFor_of_content {field : Field M}
    (h : ∀ budget m, ∃ use, ∀ bytes, field.read budget .delimited m bytes = readContent use bytes) :
    field.SettledFor .delimited := by
  intro budget m key value hkey hvalue
  obtain ⟨use, huse⟩ := h budget m
  obtain ⟨content, hdelimits⟩ := hvalue.delimits hkey
  have hread : field.read budget .delimited m = readContent use := funext huse
  rw [hread]
  exact settled_readContent use hdelimits

theorem settledFor_of_delimited {field : Field M}
    (hother : ∀ budget m bytes, wire ≠ .delimited → field.read budget wire m bytes = none)
    (h : ∀ budget m, ∃ use, ∀ bytes, field.read budget .delimited m bytes = readContent use bytes) :
    field.SettledFor wire := by
  by_cases hwire : wire = .delimited
  · rw [hwire]
    exact settledFor_of_content h
  · exact settledFor_of_refuses fun budget m bytes => hother budget m bytes hwire

theorem settledFor_bytes (get : M → List UInt8) (set : M → List UInt8 → M) :
    (bytes tag get set).SettledFor wire :=
  settledFor_of_delimited (fun _ _ _ h => if_neg h) fun budget m => ⟨_, read_bytes get set budget m⟩

theorem settledFor_text (get : M → String) (set : M → String → M) :
    (text tag get set).SettledFor wire :=
  settledFor_of_delimited (fun _ _ _ h => if_neg h) fun budget m => ⟨_, read_text get set budget m⟩

theorem settledFor_message {N : Type} [Message N] (get : M → Option N) (set : M → Option N → M) :
    (message tag get set).SettledFor wire := by
  refine settledFor_of_delimited (fun _ _ _ h => if_neg h) fun budget m => ?_
  cases budget with
  | zero => exact ⟨_, fun input => (readContent_none input).symm⟩
  | succ budget => exact ⟨_, read_message get set budget m⟩

/-- A map settles only values with a length. -/
theorem settledFor_map (get : M → SortedMap String) (set : M → SortedMap String → M) :
    (map tag get set).SettledFor .delimited := by
  refine settledFor_of_content fun budget m => ?_
  cases budget with
  | zero => exact ⟨_, fun input => (readContent_none input).symm⟩
  | succ budget => exact ⟨_, read_map get set budget .delimited m⟩

end Field

/-! ## Merging past a field -/

section

variable {M : Type} [Message M] [LawfulMessage M] {budget : Nat}

/-- A field that the message type does not have is passed over. -/
theorem merge_unknown {key : Key} {front content : List UInt8} (hkey : key.Spells front)
    (htag : key.tag ∉ (Message.fields (M := M)).map Field.tag) (hvalue : Value budget key content)
    (m : M) (rest : List UInt8) :
    merge budget m (front ++ (content ++ rest)) = merge budget m rest := by
  have hfind : (Message.fields (M := M)).find? (·.tag = key.tag) = none := by
    refine List.find?_eq_none.mpr fun field hfield hsame => htag ?_
    rw [← of_decide_eq_true hsame]
    exact List.mem_map_of_mem hfield
  rw [merge_of_key LawfulMessage.frontal (hkey.read?_append _), hfind]
  simp only [hvalue.skip_append rest (Nat.le_refl _), Option.bind_some]

/-- The bytes are complete fields, and those that the message type has settle what becomes of a
message. -/
def SettledFields (M : Type) [Message M] (bytes : List UInt8) : Prop :=
  Fields (fun key value => IsValue key value ∧ ∀ field ∈ Message.fields (M := M),
    field.tag = key.tag → field.SettledFor key.wire) bytes

/-- What follows settled fields may be replaced by bytes that any message gets as much from. -/
theorem merge_congr_of_settled {x y z : List UInt8} (hx : SettledFields M x)
    (hsame : ∀ m : M, merge budget m y = merge budget m z) (m : M) :
    merge budget m (x ++ y) = merge budget m (x ++ z) := by
  induction hx generalizing m with
  | nil => exact hsame m
  | @cons key front content others hkey hvalue _ ih =>
    obtain ⟨hvalue, hsettled⟩ := hvalue
    simp only [List.append_assoc]
    rw [merge_of_key LawfulMessage.frontal (hkey.read?_append _),
      merge_of_key LawfulMessage.frontal (hkey.read?_append _)]
    cases hfind : (Message.fields (M := M)).find? (·.tag = key.tag) with
    | some field =>
      have htag : field.tag = key.tag := by simpa using List.find?_some hfind
      have hfield := hsettled field (List.mem_of_find?_eq_some hfind) htag
      rcases hfield budget m key content rfl hvalue with hnone | ⟨m', hsome⟩
      · simp only [hnone, Option.bind_none]
      · simp only [hsome, Option.bind_some]
        exact ih m'
    | none =>
      obtain ⟨levels, hvalue⟩ := hvalue
      rcases hvalue.skip_eq budget with hskip | hskip
      · simp only [hskip, Option.bind_some]
        exact ih m
      · simp only [hskip, Option.bind_none]

end

end ScriptClient.Wire

namespace ScriptClient

open Wire

/-! ## The messages of the service -/

theorem RequestOptions.settledFor {wire : WireType} :
    ∀ field ∈ Message.fields (M := RequestOptions), field.SettledFor wire := by
  intro field hmem
  simp only [Message.fields, List.mem_cons, List.not_mem_nil, or_false] at hmem
  rcases hmem with rfl | rfl | rfl
  · exact Field.settledFor_scalar _ _ _
  · exact Field.settledFor_scalar _ _ _
  · exact Field.settledFor_text _ _

theorem ExecuteRequest.settledFor {wire : WireType} :
    ∀ field ∈ Message.fields (M := ExecuteRequest),
      (field.tag ∈ [3, 4, 5, 6] → wire = .delimited) → field.SettledFor wire := by
  intro field hmem hwire
  simp only [Message.fields, List.mem_cons, List.not_mem_nil, or_false] at hmem
  rcases hmem with rfl | rfl | rfl | rfl | rfl | rfl | rfl | rfl | rfl
  · exact Field.settledFor_text _ _
  · exact Field.settledFor_text _ _
  · rw [hwire (by decide)]
    exact Field.settledFor_map _ _
  · rw [hwire (by decide)]
    exact Field.settledFor_map _ _
  · rw [hwire (by decide)]
    exact Field.settledFor_map _ _
  · rw [hwire (by decide)]
    exact Field.settledFor_map _ _
  · exact Field.settledFor_text _ _
  · exact Field.settledFor_bytes _ _
  · exact Field.settledFor_message _ _

theorem ExecutionMetadata.settledFor {wire : WireType} :
    ∀ field ∈ Message.fields (M := ExecutionMetadata), field.SettledFor wire := by
  intro field hmem
  simp only [Message.fields, List.mem_cons, List.not_mem_nil, or_false] at hmem
  rcases hmem with rfl | rfl | rfl | rfl
  · exact Field.settledFor_text _ _
  · exact Field.settledFor_scalar _ _ _
  · exact Field.settledFor_scalar _ _ _
  · exact Field.settledFor_scalar _ _ _

theorem ExecuteResponse.settledFor {wire : WireType} :
    ∀ field ∈ Message.fields (M := ExecuteResponse),
      (field.tag ∈ [2] → wire = .delimited) → field.SettledFor wire := by
  intro field hmem hwire
  simp only [Message.fields, List.mem_cons, List.not_mem_nil, or_false] at hmem
  rcases hmem with rfl | rfl | rfl | rfl
  · exact Field.settledFor_scalar _ _ _
  · rw [hwire (by decide)]
    exact Field.settledFor_map _ _
  · exact Field.settledFor_bytes _ _
  · exact Field.settledFor_message _ _

theorem StreamChunk.settledFor {wire : WireType} :
    ∀ field ∈ Message.fields (M := StreamChunk), field.SettledFor wire := by
  intro field hmem
  simp only [Message.fields, List.mem_cons, List.not_mem_nil, or_false] at hmem
  rcases hmem with rfl | rfl | rfl
  · exact Field.settledFor_bytes _ _
  · exact Field.settledFor_scalar _ _ _
  · exact Field.settledFor_scalar _ _ _

theorem HealthCheckRequest.settledFor {wire : WireType} :
    ∀ field ∈ Message.fields (M := HealthCheckRequest), field.SettledFor wire := by
  intro field hmem
  rw [List.mem_singleton.mp hmem]
  exact Field.settledFor_text _ _

theorem HealthCheckResponse.settledFor {wire : WireType} :
    ∀ field ∈ Message.fields (M := HealthCheckResponse), field.SettledFor wire := by
  intro field hmem
  rw [List.mem_singleton.mp hmem]
  exact Field.settledFor_scalar _ _ _

namespace Schema

/-- The tags of the fields of a message type. -/
def tags (s : Schema) : List Nat :=
  (Message.fields (M := s.Carrier)).map Field.tag

/-- The tags of its maps. -/
def mapTags : Schema → List Nat
  | executeRequest => [3, 4, 5, 6]
  | executeResponse => [2]
  | _ => []

/-- The bytes are complete fields, and their values for maps are values with a length. -/
def IsComplete (s : Schema) (bytes : List UInt8) : Prop :=
  Fields (fun key value => IsValue key value ∧ (key.tag ∈ s.mapTags → key.wire = .delimited)) bytes

/-- The bytes are one field that the message type does not have, its groups nested no deeper than
readers follow them. -/
def IsUnknown (s : Schema) (bytes : List UInt8) : Prop :=
  ∃ key front content, bytes = front ++ content ∧ Key.Spells key front ∧ key.tag ∉ s.tags ∧
    Value recursionLimit key content

theorem settledFor_of_mem (s : Schema) {field : Wire.Field s.Carrier}
    (hfield : field ∈ Message.fields (M := s.Carrier)) {wire : WireType}
    (hwire : field.tag ∈ s.mapTags → wire = .delimited) : field.SettledFor wire := by
  cases s with
  | executeRequest => exact ExecuteRequest.settledFor field hfield hwire
  | requestOptions => exact RequestOptions.settledFor field hfield
  | executeResponse => exact ExecuteResponse.settledFor field hfield hwire
  | executionMetadata => exact ExecutionMetadata.settledFor field hfield
  | streamChunk => exact StreamChunk.settledFor field hfield
  | healthCheckRequest => exact HealthCheckRequest.settledFor field hfield
  | healthCheckResponse => exact HealthCheckResponse.settledFor field hfield

/-- **Fields of later schemas.** After complete fields and before any bytes, a field that the
message type does not have makes no difference to the message, nor to whether there is one. -/
theorem decode_unknown (s : Schema) {x u : List UInt8} (hx : s.IsComplete x) (hu : s.IsUnknown u)
    (y : List UInt8) : (decode (x ++ u ++ y) : Option s.Carrier) = decode (x ++ y) := by
  obtain ⟨key, front, content, rfl, hkey, htag, hvalue⟩ := hu
  have hsettled : SettledFields s.Carrier x := by
    refine hx.imp fun ⟨hvalue, hwire⟩ => ⟨hvalue, fun field hfield hsame => ?_⟩
    exact s.settledFor_of_mem hfield fun hmap => hwire (hsame ▸ hmap)
  rw [List.append_assoc, List.append_assoc, decode, decode]
  exact merge_congr_of_settled hsettled (fun m => merge_unknown hkey htag hvalue m y) _

/-- A later response: a header without a name, and a field with tag 16 that is a group in a
group. -/
theorem decode_unknown_in_response :
    let x : List UInt8 := [18, 2, 10, 0]
    let u : List UInt8 := [131, 1, 27, 8, 5, 28, 132, 1]
    executeResponse.IsComplete x ∧ executeResponse.IsUnknown u ∧
      ∀ y, (decode (x ++ u ++ y) : Option ExecuteResponse) = decode (x ++ y) := by
  intro x u
  have hkey : Key.Spells ⟨2, .delimited⟩ [18] := by decide
  have hvalue : IsValue ⟨2, .delimited⟩ [2, 10, 0] := ⟨1, by decide⟩
  have hx : executeResponse.IsComplete x := by
    show Fields _ ([18] ++ ([2, 10, 0] ++ []))
    exact .cons hkey ⟨hvalue, fun _ => rfl⟩ .nil
  have hu : executeResponse.IsUnknown u :=
    ⟨⟨16, .startGroup⟩, [131, 1], [27, 8, 5, 28, 132, 1], rfl, by decide, by decide, by decide⟩
  exact ⟨hx, hu, decode_unknown executeResponse hx hu⟩

/-- A map takes a number for a length. Before a field with tag 16, the length 3 covers that field,
and without it the body. -/
theorem decode_unknown_after_number :
    let x : List UInt8 := [16, 3]
    let u : List UInt8 := [128, 1, 0]
    let y : List UInt8 := [26, 1, 120]
    Fields IsValue x ∧ executeResponse.IsUnknown u ∧
      (decode (x ++ u ++ y) : Option ExecuteResponse) ≠ decode (x ++ y) := by
  intro x u y
  have hkey : Key.Spells ⟨2, .varint⟩ [16] := by decide
  have hvalue : IsValue ⟨2, .varint⟩ [3] := ⟨1, by decide⟩
  have hx : Fields IsValue x := .cons hkey hvalue .nil
  have hu : executeResponse.IsUnknown u :=
    ⟨⟨16, .varint⟩, [128, 1], [0], rfl, by decide, by decide, by decide⟩
  exact ⟨hx, hu, by decide +kernel⟩

end Schema

end ScriptClient
