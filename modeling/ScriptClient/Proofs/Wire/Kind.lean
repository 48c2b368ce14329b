import ScriptClient.Proofs.SortedMap
import ScriptClient.Proofs.Wire.Record

set_option autoImplicit false

/-! # Kinds of fields

Every kind of field is lawful: numbers whose scalar type is (`lawful_scalar`), bytes and texts
(`lawful_bytes`, `lawful_text`), messages inside messages (`lawful_message`), and maps, whose
entries may come in any order since their keys differ (`lawful_map`). -/

namespace ScriptClient.Wire

/-! ## Scalars -/

/-- Numbers on the wire give the values back that they were written for. -/
structure Scalar.Lawful {α : Type} (kind : Scalar α) : Prop where
  toNat_lt : ∀ v, kind.toNat v < UInt64.size
  ofNat_toNat : ∀ v, kind.ofNat (kind.toNat v) = v

namespace Scalar

theorem lawful_uint32 : uint32.Lawful where
  toNat_lt v := Nat.lt_trans v.toNat_lt (by decide)
  ofNat_toNat _ := UInt32.ofNat_toNat

theorem lawful_uint64 : uint64.Lawful where
  toNat_lt v := v.toNat_lt
  ofNat_toNat _ := UInt64.ofNat_toNat

/-- Extending the sign does not change the low bits. -/
theorem setWidth_signExtend (x : BitVec 32) : (x.signExtend 64).setWidth 32 = x := by
  refine BitVec.eq_of_getLsbD_eq fun i hi => ?_
  have hi' : i < 64 := by omega
  rw [BitVec.getLsbD_setWidth, BitVec.getLsbD_signExtend]
  simp only [hi, hi', decide_true, Bool.true_and, if_true]

theorem lawful_int32 : int32.Lawful where
  toNat_lt v := v.toInt64.toUInt64.toNat_lt
  ofNat_toNat v := by
    show (UInt32.ofNat v.toInt64.toUInt64.toNat).toInt32 = v
    rw [UInt32.ofNat_uInt64ToNat]
    apply Int32.toBitVec_inj.mp
    exact setWidth_signExtend v.toBitVec

theorem lawful_int64 : int64.Lawful where
  toNat_lt v := v.toUInt64.toNat_lt
  ofNat_toNat v := by
    show (UInt64.ofNat v.toUInt64.toNat).toInt64 = v
    rw [UInt64.ofNat_toNat]
    rfl

theorem lawful_bool : bool.Lawful where
  toNat_lt v := Nat.lt_of_le_of_lt v.toNat_le (by decide)
  ofNat_toNat v := by cases v <;> rfl

end Scalar

namespace Field

variable {M : Type} {depth tag : Nat}

/-! ## Fields with one record -/

/-- A field that has a record or none takes a message as far as that record does. -/
theorem takesAll_optional {field : Field M} {budget : Nat} {m m' : M} {absent : Prop}
    [Decidable absent] {record : List UInt8} {records : List (List UInt8)}
    (hperm : records.Perm (if absent then [] else [record])) (habsent : absent → m = m')
    (htakes : ¬ absent → record ∈ records → field.Takes budget record m m') :
    field.TakesAll budget records m m' := by
  by_cases h : absent
  · rw [if_pos h] at hperm
    rw [hperm.eq_nil]
    exact habsent h
  · rw [if_neg h] at hperm
    rw [List.perm_singleton.mp hperm] at htakes ⊢
    exact ⟨m', htakes h List.mem_cons_self, rfl⟩

theorem frontal_scalar {α : Type} [DecidableEq α] (kind : Scalar α) (tag : Nat) (get : M → α)
    (set : M → α → M) : (scalar kind tag get set).Frontal where
  read_append {budget wire m bytes m' rest} more h := by
    unfold scalar at h ⊢
    simp only at h ⊢
    by_cases hwire : wire = .varint
    · rw [if_pos hwire] at h ⊢
      obtain ⟨⟨n, rest'⟩, hr, heq⟩ := Option.map_eq_some_iff.mp h
      cases heq
      rw [Varint.read?_append more hr]
      rfl
    · rw [if_neg hwire] at h
      cases h
  length_read {budget wire m bytes m' rest} h := by
    unfold scalar at h
    simp only at h
    by_cases hwire : wire = .varint
    · rw [if_pos hwire] at h
      obtain ⟨⟨n, rest'⟩, hr, heq⟩ := Option.map_eq_some_iff.mp h
      cases heq
      exact Nat.le_of_lt (Varint.length_read? hr)
    · rw [if_neg hwire] at h
      cases h

theorem lawful_scalar {α : Type} [DecidableEq α] {kind : Scalar α} (hkind : kind.Lawful)
    (htag : 0 < tag) (htag' : tag < UInt32.size / 8) (get : M → α) (set : M → α → M) :
    (scalar kind tag get set).Lawful depth where
  toFrontal := frontal_scalar kind tag get set
  tag_pos := htag
  tag_lt := htag'
  takes_written {budget} m n records _ hperm _ := by
    refine takesAll_optional hperm (fun hdefault => (if_pos hdefault).symm) fun hvalue _ => ?_
    refine ⟨.varint, Varint.write (kind.toNat (get n)), rfl, fun more => ?_⟩
    have hread := Varint.read?_write_append (kind.toNat (get n)) more (hkind.toNat_lt _)
    show (if WireType.varint = .varint then (Varint.read? _).map _ else none) =
      some (if get n = kind.default then m else set m (get n), more)
    rw [if_pos rfl, if_neg hvalue, hread, Option.map_some]
    show some (set m (kind.ofNat (kind.toNat (get n))), more) = _
    rw [hkind.ofNat_toNat]

/-! ## Fields with a length -/

/-- Reads a length and that many bytes, and uses them. -/
def readContent (use : List UInt8 → Option M) (bytes : List UInt8) : Option (M × List UInt8) :=
  (readDelimited? bytes).bind fun (content, rest) => (use content).map fun m => (m, rest)

theorem readContent_write {use : List UInt8 → Option M} {content : List UInt8} {m : M}
    (h : use content = some m) (hsize : content.length < UInt64.size) (more : List UInt8) :
    readContent use (writeDelimited content ++ more) = some (m, more) := by
  rw [readContent, readDelimited?_write_append content more hsize, Option.bind_some]
  simp only [h, Option.map_some]

/-- A field is read from the front if it is read by its length. -/
theorem frontal_of_content {field : Field M}
    (h : ∀ budget wire m, ∃ use, ∀ bytes, field.read budget wire m bytes = readContent use bytes) :
    field.Frontal where
  read_append {budget wire m bytes m' rest} more hread := by
    obtain ⟨use, huse⟩ := h budget wire m
    rw [huse] at hread ⊢
    obtain ⟨⟨content, rest'⟩, hr, hmap⟩ := Option.bind_eq_some_iff.mp hread
    obtain ⟨m₁, hm, heq⟩ := Option.map_eq_some_iff.mp hmap
    cases heq
    rw [readContent, readDelimited?_append more hr, Option.bind_some]
    simp only [hm, Option.map_some]
  length_read {budget wire m bytes m' rest} hread := by
    obtain ⟨use, huse⟩ := h budget wire m
    rw [huse] at hread
    obtain ⟨⟨content, rest'⟩, hr, hmap⟩ := Option.bind_eq_some_iff.mp hread
    obtain ⟨m₁, hm, heq⟩ := Option.map_eq_some_iff.mp hmap
    cases heq
    exact Nat.le_of_lt (length_readDelimited? hr)

theorem readContent_none (bytes : List UInt8) :
    readContent (fun _ => (none : Option M)) bytes = none := by
  rw [readContent]
  cases readDelimited? bytes <;> rfl

/-- The same for a field that refuses every other wire type. -/
theorem frontal_of_delimited {field : Field M}
    (hother : ∀ {budget wire m bytes}, wire ≠ .delimited → field.read budget wire m bytes = none)
    (h : ∀ budget m, ∃ use, ∀ bytes,
      field.read budget .delimited m bytes = readContent use bytes) : field.Frontal := by
  refine frontal_of_content fun budget wire m => ?_
  by_cases hwire : wire = .delimited
  · rw [hwire]
    exact h budget m
  · refine ⟨fun _ => none, fun bytes => ?_⟩
    rw [hother hwire, readContent_none]

theorem content_lt_of_record {key : Key} {content : List UInt8} {size : Nat}
    (h : (key.write ++ writeDelimited content).length < size) : content.length < size := by
  rw [writeDelimited, List.length_append, List.length_append] at h
  omega

/-- A record with a length takes a message as far as the use of its content does. -/
theorem takes_content {field : Field M} {budget : Nat} {m m' : M} {use : List UInt8 → Option M}
    {content : List UInt8}
    (hread : ∀ bytes, field.read budget .delimited m bytes = readContent use bytes)
    (huse : use content = some m')
    (hsize : (Key.write ⟨field.tag, .delimited⟩ ++ writeDelimited content).length < UInt64.size) :
    field.Takes budget (Key.write ⟨field.tag, .delimited⟩ ++ writeDelimited content) m m' := by
  refine ⟨.delimited, writeDelimited content, rfl, fun more => ?_⟩
  rw [hread, readContent_write huse (content_lt_of_record hsize)]

/-! ### Bytes and texts -/

theorem read_bytes (get : M → List UInt8) (set : M → List UInt8 → M) (budget : Nat) (m : M)
    (input : List UInt8) :
    (bytes tag get set).read budget .delimited m input =
      readContent (fun content => some (set m content)) input := by
  show (readDelimited? input).map _ = _
  rw [readContent]
  cases readDelimited? input <;> rfl

theorem lawful_bytes (htag : 0 < tag) (htag' : tag < UInt32.size / 8) (get : M → List UInt8)
    (set : M → List UInt8 → M) : (bytes tag get set).Lawful depth where
  toFrontal :=
    frontal_of_delimited (fun h => if_neg h) fun budget m => ⟨_, read_bytes get set budget m⟩
  tag_pos := htag
  tag_lt := htag'
  takes_written {budget} m n records _ hperm hsize := by
    refine takesAll_optional hperm (fun hdefault => (if_pos hdefault).symm) fun hvalue hmem => ?_
    refine takes_content (read_bytes get set budget m) ?_ (hsize _ hmem)
    exact congrArg some (if_neg hvalue).symm

theorem read_text (get : M → String) (set : M → String → M) (budget : Nat) (m : M)
    (input : List UInt8) :
    (text tag get set).read budget .delimited m input =
      readContent (fun content => (Text.Utf8.decode? content).map (set m)) input := by
  unfold text readContent
  simp only [if_true]
  cases readDelimited? input with
  | none => rfl
  | some read =>
    simp only [Option.bind_some, Option.map_map]
    rfl

theorem lawful_text (htag : 0 < tag) (htag' : tag < UInt32.size / 8) (get : M → String)
    (set : M → String → M) : (text tag get set).Lawful depth where
  toFrontal :=
    frontal_of_delimited (fun h => if_neg h) fun budget m => ⟨_, read_text get set budget m⟩
  tag_pos := htag
  tag_lt := htag'
  takes_written {budget} m n records _ hperm hsize := by
    refine takesAll_optional hperm (fun hdefault => (if_pos hdefault).symm) fun hvalue hmem => ?_
    refine takes_content (read_text get set budget m) ?_ (hsize _ hmem)
    rw [Text.Utf8.decode?_encode]
    exact congrArg some (if_neg hvalue).symm

/-! ### Messages inside messages -/

section

variable {N : Type} [Message N] (get : M → Option N) (set : M → Option N → M)

theorem read_message (budget : Nat) (m : M) (input : List UInt8) :
    (message tag get set).read (budget + 1) .delimited m input =
      readContent (fun content =>
        (merge budget ((get m).getD Message.empty) content).map fun n => set m (some n)) input := by
  unfold message readContent
  simp only [if_true]
  cases readDelimited? input with
  | none => rfl
  | some read =>
    simp only [Option.bind_some, Option.map_map]
    rfl

theorem frontal_message : (message tag get set).Frontal := by
  refine frontal_of_delimited (fun h => if_neg h) fun budget m => ?_
  cases budget with
  | zero => exact ⟨_, fun input => (readContent_none input).symm⟩
  | succ budget => exact ⟨_, read_message get set budget m⟩

theorem lawful_message [LawfulMessage N] (hdepth : LawfulMessage.depth N < depth) (htag : 0 < tag)
    (htag' : tag < UInt32.size / 8) : (message tag get set).Lawful depth where
  toFrontal := frontal_message get set
  tag_pos := htag
  tag_lt := htag'
  takes_written {budget} m n records hbudget hperm hsize := by
    obtain ⟨budget, rfl⟩ : ∃ b, budget = b + 1 := ⟨budget - 1, by omega⟩
    unfold message at hperm ⊢
    simp only at hperm ⊢
    cases hinner : get n with
    | none =>
      rw [hinner] at hperm
      rw [hperm.eq_nil]
      rfl
    | some inner =>
      rw [hinner] at hperm
      rw [List.perm_singleton.mp hperm] at hsize ⊢
      have hrecord := hsize _ List.mem_cons_self
      have hcontent : (encode inner).length < UInt64.size := content_lt_of_record hrecord
      have hbudget' : LawfulMessage.depth N ≤ budget := by omega
      refine ⟨_, takes_content (read_message get set budget m) ?_ hrecord, rfl⟩
      rw [merge_written hbudget' _ (written_encode inner) hcontent]
      rfl

end

end Field

/-! ## Laying a field over a message -/

/-- The second value, or the first one where the second is the default. -/
def newer {α : Type} [DecidableEq α] (default x m : α) : α :=
  if m = default then x else m

theorem newer_default {α : Type} [DecidableEq α] (default m : α) : newer default default m = m := by
  unfold newer
  by_cases h : m = default
  · rw [if_pos h, h]
  · rw [if_neg h]

/-- The second message laid over the first, where both may be absent. -/
def newerMessage {N : Type} (empty : N) (overlaid : N → N → N) (x : Option N) : Option N → Option N
  | none => x
  | some m => some (overlaid (x.getD empty) m)

theorem newerMessage_none {N : Type} {empty : N} {overlaid : N → N → N}
    (h : ∀ m, overlaid empty m = m) (m : Option N) : newerMessage empty overlaid none m = m := by
  cases m with
  | none => rfl
  | some m => exact congrArg some (h m)

namespace Field

variable {M : Type} {tag : Nat}

theorem overlay_scalar {α : Type} [DecidableEq α] {kind : Scalar α} {get : M → α}
    {set : M → α → M} (hself : ∀ m, set m (get m) = m) (x m : M) :
    (scalar kind tag get set).overlay x m = set x (newer kind.default (get x) (get m)) := by
  by_cases h : get m = kind.default
  · exact (if_pos h).trans (by rw [newer, if_pos h, hself])
  · exact (if_neg h).trans (by rw [newer, if_neg h])

theorem overlay_bytes {get : M → List UInt8} {set : M → List UInt8 → M}
    (hself : ∀ m, set m (get m) = m) (x m : M) :
    (bytes tag get set).overlay x m = set x (newer [] (get x) (get m)) := by
  by_cases h : get m = []
  · exact (if_pos h).trans (by rw [newer, if_pos h, hself])
  · exact (if_neg h).trans (by rw [newer, if_neg h])

theorem overlay_text {get : M → String} {set : M → String → M} (hself : ∀ m, set m (get m) = m)
    (x m : M) : (text tag get set).overlay x m = set x (newer "" (get x) (get m)) := by
  by_cases h : get m = ""
  · exact (if_pos h).trans (by rw [newer, if_pos h, hself])
  · exact (if_neg h).trans (by rw [newer, if_neg h])

theorem overlay_message {N : Type} [Message N] {get : M → Option N} {set : M → Option N → M}
    (hself : ∀ m, set m (get m) = m) (x m : M) :
    (message tag get set).overlay x m =
      set x (newerMessage Message.empty Wire.overlay (get x) (get m)) := by
  unfold message
  simp only
  cases get m with
  | none => exact (hself x).symm
  | some inner => rfl

end Field

/-! ## Maps -/

instance : LawfulMessage MapEntry where
  depth := 0
  depth_le := Nat.zero_le _
  lawful := by
    intro field hmem
    rcases List.mem_cons.mp hmem with rfl | hmem
    · exact Field.lawful_text (by decide) (by decide) _ _
    · rw [List.mem_singleton.mp hmem]
      exact Field.lawful_text (by decide) (by decide) _ _
  distinct := by decide
  overlay_empty := by
    rintro ⟨key, value⟩
    simp only [overlay, Message.fields, List.foldl_cons, List.foldl_nil]
    rw [Field.overlay_text fun _ => rfl, Field.overlay_text fun _ => rfl]
    simp only [Message.empty, newer_default]

/-- A permutation of images is the image of a permutation. -/
theorem exists_perm_of_map {α β : Type} {f : α → β} {l : List β} {entries : List α}
    (h : l.Perm (entries.map f)) :
    ∃ entries' : List α, entries'.Perm entries ∧ l = entries'.map f := by
  generalize hl : entries.map f = images at h
  induction h generalizing entries with
  | nil => exact ⟨[], by rw [List.map_eq_nil_iff.mp hl], rfl⟩
  | cons x _ ih =>
    obtain ⟨e, rest, rfl, rfl, hrest⟩ := List.map_eq_cons_iff.mp hl
    obtain ⟨rest', hperm, rfl⟩ := ih hrest
    exact ⟨e :: rest', hperm.cons e, rfl⟩
  | swap x y l =>
    obtain ⟨e, rest, rfl, rfl, hrest⟩ := List.map_eq_cons_iff.mp hl
    obtain ⟨e', rest', rfl, rfl, rfl⟩ := List.map_eq_cons_iff.mp hrest
    exact ⟨e' :: e :: rest', List.Perm.swap e e' rest', rfl⟩
  | trans _ _ ih₁ ih₂ =>
    obtain ⟨middle, hmiddle, rfl⟩ := ih₂ hl
    obtain ⟨front, hfront, rfl⟩ := ih₁ rfl
    exact ⟨front, hfront.trans hmiddle, rfl⟩

namespace Field

variable {M : Type} {depth tag : Nat} (get : M → SortedMap String) (set : M → SortedMap String → M)

theorem read_map (budget : Nat) (wire : WireType) (m : M) (input : List UInt8) :
    (map tag get set).read (budget + 1) wire m input =
      readContent (fun content =>
        (merge budget (Message.empty (M := MapEntry)) content).map fun e =>
          set m ((get m).insert e.key e.value)) input := by
  unfold map readContent
  simp only
  cases readDelimited? input with
  | none => rfl
  | some read =>
    simp only [Option.bind_some, Option.map_map]
    rfl

theorem frontal_map : (map tag get set).Frontal := by
  refine frontal_of_content fun budget wire m => ?_
  cases budget with
  | zero => exact ⟨_, fun input => (readContent_none input).symm⟩
  | succ budget => exact ⟨_, read_map get set budget wire m⟩

section

variable {get set} (hself : ∀ m, set m (get m) = m) (hget : ∀ m v, get (set m v) = v)
  (hset : ∀ m v w, set (set m v) w = set m w)

include hself hget hset

/-- Records of entries insert them one after the other. -/
theorem takesAll_entries {budget : Nat} (entries : List (String × String)) (m : M)
    (hsize : ∀ e ∈ entries, (entryRecord tag e).length < UInt64.size) :
    (map tag get set).TakesAll (budget + 1) (entries.map (entryRecord tag)) m
      (set m ((get m).insertMany entries)) := by
  induction entries generalizing m with
  | nil => exact (hself m).symm
  | cons e rest ih =>
    have hrecord := hsize e List.mem_cons_self
    have hcontent : (encode (MapEntry.mk e.1 e.2)).length < UInt64.size :=
      content_lt_of_record hrecord
    -- an entry is a message of its own, merged into the empty one
    have hmerge : merge budget (Message.empty (M := MapEntry)) (encode (MapEntry.mk e.1 e.2)) =
        some ⟨e.1, e.2⟩ := by
      rw [merge_written (Nat.zero_le budget) _ (written_encode _) hcontent,
        LawfulMessage.overlay_empty]
    refine ⟨set m ((get m).insert e.1 e.2),
      takes_content (read_map get set budget .delimited m) ?_ hrecord, ?_⟩
    · rw [hmerge]
      rfl
    · have hrest := ih (set m ((get m).insert e.1 e.2))
        fun e' he' => hsize e' (List.mem_cons_of_mem e he')
      rw [hget, hset] at hrest
      exact hrest

/-- The records of the entries of a map can be in any order, since its keys differ. -/
theorem lawful_map (hdepth : 0 < depth) (htag : 0 < tag) (htag' : tag < UInt32.size / 8) :
    (map tag get set).Lawful depth where
  toFrontal := frontal_map get set
  tag_pos := htag
  tag_lt := htag'
  takes_written {budget} m n records hbudget hperm hsize := by
    obtain ⟨budget, rfl⟩ : ∃ b, budget = b + 1 := ⟨budget - 1, by omega⟩
    -- records in any order are the records of the entries in some order
    obtain ⟨entries, hentries, rfl⟩ := exists_perm_of_map hperm
    show (map tag get set).TakesAll (budget + 1) _ m (set m ((get m).union (get n)))
    rw [← SortedMap.insertMany_perm _ hentries]
    exact takesAll_entries hself hget hset entries m
      fun e he => hsize _ (List.mem_map_of_mem he)

end

end Field

end ScriptClient.Wire
