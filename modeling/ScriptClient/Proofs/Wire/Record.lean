import ScriptClient.Proofs.Wire.Prefix

set_option autoImplicit false

/-! # Records

A field is lawful if its records, read one after the other in any order, take a message to the
message with the field laid over it (`Field.Lawful`). If all fields of a message type are lawful, so
are its messages: whatever order the records of each field are written in, merging them into a
message gives the overlay (`merge_written`). So a written message can follow any bytes that decode
(`decode_append_written`). -/

namespace ScriptClient.Wire

namespace Field

variable {M : Type}

/-- A record takes the first message to the second, whatever bytes follow. -/
def Takes (field : Field M) (budget : Nat) (record : List UInt8) (m m' : M) : Prop :=
  ∃ wire value, record = Key.write ⟨field.tag, wire⟩ ++ value ∧
    ∀ more, field.read budget wire m (value ++ more) = some (m', more)

/-- Records, read one after the other, take the first message to the second. -/
def TakesAll (field : Field M) (budget : Nat) : List (List UInt8) → M → M → Prop
  | [], m, m' => m = m'
  | record :: records, m, m' =>
    ∃ between, field.Takes budget record m between ∧ field.TakesAll budget records between m'

/-- A field whose records lay it over any message, in whatever order they are. A budget of `depth`
is enough for that. -/
structure Lawful (depth : Nat) (field : Field M) : Prop extends field.Frontal where
  tag_pos : 0 < field.tag
  tag_lt : field.tag < UInt32.size / 8
  takes_written : ∀ {budget} (m n : M) {records}, depth ≤ budget →
    records.Perm (field.write n) → (∀ record ∈ records, record.length < UInt64.size) →
      field.TakesAll budget records m (field.overlay m n)

theorem find?_of_distinct {fields : List (Field M)} (h : (fields.map tag).Nodup) {field : Field M}
    (hmem : field ∈ fields) : fields.find? (·.tag = field.tag) = some field := by
  induction fields with
  | nil => cases hmem
  | cons first fields ih =>
    obtain ⟨hfirst, hrest⟩ := List.nodup_cons.mp h
    by_cases hsame : first = field
    · subst hsame
      exact List.find?_cons_of_pos (by simp)
    · have hmem' : field ∈ fields := (List.mem_cons.mp hmem).resolve_left fun h => hsame h.symm
      have htag : first.tag ≠ field.tag :=
        fun heq => hfirst (heq ▸ List.mem_map_of_mem hmem')
      rw [List.find?_cons_of_neg (by simpa using htag), ih hrest hmem']

end Field

/-! ## Written messages -/

/-- The bytes are the records of the fields of a message, those of one field in any order. -/
def WrittenFields {M : Type} : List (Field M) → M → List UInt8 → Prop
  | [], _, bytes => bytes = []
  | field :: fields, m, bytes =>
    ∃ (records : List (List UInt8)) (rest : List UInt8), records.Perm (field.write m) ∧
      WrittenFields fields m rest ∧ bytes = records.flatten ++ rest

/-- The bytes are a message, with the entries of each map in any order. -/
def Written {M : Type} [Message M] (m : M) (bytes : List UInt8) : Prop :=
  WrittenFields Message.fields m bytes

theorem writtenFields_write {M : Type} (fields : List (Field M)) (m : M) :
    WrittenFields fields m (fields.flatMap (·.write m)).flatten := by
  induction fields with
  | nil => rfl
  | cons field fields ih =>
    refine ⟨field.write m, _, List.Perm.refl _, ih, ?_⟩
    rw [List.flatMap_cons, List.flatten_append]

/-- The bytes that are written for a message are one way to write it. -/
theorem written_encode {M : Type} [Message M] (m : M) : Written m (encode m) :=
  writtenFields_write Message.fields m

/-- A message type whose fields are lawful and have different tags. -/
class LawfulMessage (M : Type) [Message M] where
  /-- How deep its messages are nested. -/
  depth : Nat
  depth_le : depth ≤ recursionLimit
  lawful : ∀ field ∈ Message.fields (M := M), field.Lawful depth
  distinct : ((Message.fields (M := M)).map Field.tag).Nodup
  overlay_empty : ∀ m : M, overlay Message.empty m = m

section

variable {M : Type} [Message M] [LawfulMessage M] {budget : Nat}

theorem LawfulMessage.frontal : ∀ field ∈ Message.fields (M := M), field.Frontal :=
  fun field hmem => (LawfulMessage.lawful field hmem).toFrontal

/-- Merging reads the records of a field one after the other. -/
theorem merge_records {field : Field M} (hfield : field ∈ Message.fields (M := M))
    {records : List (List UInt8)} {m m' : M} (h : field.TakesAll budget records m m')
    (more : List UInt8) :
    merge budget m (records.flatten ++ more) = merge budget m' more := by
  have hlawful := LawfulMessage.lawful field hfield
  induction records generalizing m with
  | nil =>
    cases h
    rfl
  | cons record records ih =>
    obtain ⟨between, ⟨wire, value, rfl, hread⟩, hrest⟩ := h
    have hkey := Key.read?_write_append ⟨field.tag, wire⟩ (value ++ (records.flatten ++ more))
      hlawful.tag_pos hlawful.tag_lt
    -- the tags differ, so the key finds this field
    rw [List.flatten_cons, List.append_assoc, List.append_assoc,
      merge_of_key LawfulMessage.frontal hkey,
      Field.find?_of_distinct LawfulMessage.distinct hfield]
    simp only [hread, Option.bind_some]
    exact ih hrest

theorem merge_writtenFields {fields : List (Field M)}
    (hfields : ∀ field ∈ fields, field ∈ Message.fields (M := M)) {m n : M} {bytes : List UInt8}
    (h : WrittenFields fields n bytes) (hsize : bytes.length < UInt64.size)
    (hbudget : LawfulMessage.depth M ≤ budget) :
    merge budget m bytes = some (fields.foldl (fun acc field => field.overlay acc n) m) := by
  induction fields generalizing m bytes with
  | nil =>
    cases h
    rfl
  | cons field fields ih =>
    obtain ⟨records, rest, hperm, hrest, rfl⟩ := h
    have hfield := hfields field List.mem_cons_self
    rw [List.length_append] at hsize
    have hshort : ∀ record ∈ records, record.length < UInt64.size := by
      intro record hrecord
      have hle : record.length ≤ records.flatten.length :=
        (List.sublist_flatten_of_mem hrecord).length_le
      omega
    have htakes := (LawfulMessage.lawful field hfield).takes_written m n hbudget hperm hshort
    rw [merge_records hfield htakes, List.foldl_cons]
    exact ih (fun f hf => hfields f (List.mem_cons_of_mem _ hf)) hrest (by omega)

/-- A written message is laid over the message that it is merged into. -/
theorem merge_written (hbudget : LawfulMessage.depth M ≤ budget) (m : M) {n : M}
    {bytes : List UInt8} (h : Written n bytes) (hsize : bytes.length < UInt64.size) :
    merge budget m bytes = some (overlay m n) :=
  merge_writtenFields (fun _ hfield => hfield) h hsize hbudget

/-- A written message that follows bytes of another message is laid over that message. -/
theorem decode_append_written {x m : M} {bytes written : List UInt8} (hx : decode bytes = some x)
    (h : Written m written) (hsize : written.length < UInt64.size) :
    decode (bytes ++ written) = some (overlay x m) := by
  rw [decode, merge_append LawfulMessage.frontal written hx]
  exact merge_written LawfulMessage.depth_le x h hsize

/-- A written message decodes to itself. -/
theorem decode_written {m : M} {written : List UInt8} (h : Written m written)
    (hsize : written.length < UInt64.size) : decode written = some m := by
  rw [decode, merge_written LawfulMessage.depth_le _ h hsize, LawfulMessage.overlay_empty]

end

end ScriptClient.Wire
