import ScriptClient.SortedMap
import ScriptClient.Text.Utf8
import ScriptClient.Wire.Skip

set_option autoImplicit false

/-! # Message types

A message type is the list of its fields in the order they are written, each with a way to write it
and a way to merge a value that was read. Encoding, decoding, and laying one message over another
(`overlay`) follow from that list alone. A field that has its default value is not written; of a
field that comes more than once the last value counts, a map gains entries, and a message inside a
message is merged. On the wire a field is a list of records, a key and a value each; only a map has
more than one, and their order does not matter to a reader. -/

namespace ScriptClient.Wire

/-- One field of a message type `M`. -/
structure Field (M : Type) where
  /-- The number of the field in keys. -/
  tag : Nat
  /-- The records of the field in a message, none if it has its default value. -/
  write : M → List (List UInt8)
  /-- Reads a value after its wire type, merges it into a message, and gives the bytes after it.
  The budget bounds the nesting of messages and groups. -/
  read : (budget : Nat) → WireType → M → List UInt8 → Option (M × List UInt8)
  /-- Lays the field of the second message over the first message. -/
  overlay : M → M → M

/-- A type of messages: the empty message, and the fields in the order they are written. -/
class Message (M : Type) where
  empty : M
  fields : List (Field M)

/-- Merges the fields that the bytes hold into `m`; unknown fields are passed over. Every field
takes a byte at least, so `fuel` may be the number of bytes. -/
def mergeFields {M : Type} (fields : List (Field M)) (budget : Nat) :
    (fuel : Nat) → M → List UInt8 → Option M
  | _, m, [] => some m
  | 0, _, _ :: _ => none
  | fuel + 1, m, bytes@(_ :: _) =>
    match Key.read? bytes with
    | none => none
    | some (key, rest) =>
      match fields.find? (·.tag = key.tag) with
      | some field =>
        match field.read budget key.wire m rest with
        | none => none
        | some (m', rest') => mergeFields fields budget fuel m' rest'
      | none =>
        match skip budget fuel key rest with
        | none => none
        | some rest' => mergeFields fields budget fuel m rest'

/-- How deep messages, map entries and skipped groups may be nested. -/
def recursionLimit : Nat := 100

section

variable {M : Type} [Message M]

/-- The bytes of a message. -/
def encode (m : M) : List UInt8 :=
  ((Message.fields (M := M)).flatMap (·.write m)).flatten

/-- Merges the fields that the bytes hold into `m`. -/
def merge (budget : Nat) (m : M) (bytes : List UInt8) : Option M :=
  mergeFields Message.fields budget bytes.length m bytes

/-- The message with these bytes. -/
def decode (bytes : List UInt8) : Option M :=
  merge recursionLimit Message.empty bytes

/-- The second message laid over the first. -/
def overlay (m n : M) : M :=
  (Message.fields (M := M)).foldl (fun acc field => field.overlay acc n) m

end

/-! ## Kinds of fields -/

/-- A type of values that are written as one variable-length number. -/
structure Scalar (α : Type) where
  default : α
  toNat : α → Nat
  ofNat : Nat → α

namespace Scalar

/-- Numbers of 32 bits. Only the low 32 bits of what is read count. -/
def uint32 : Scalar UInt32 := ⟨0, UInt32.toNat, UInt32.ofNat⟩

/-- Numbers of 64 bits. -/
def uint64 : Scalar UInt64 := ⟨0, UInt64.toNat, UInt64.ofNat⟩

/-- Signed numbers of 32 bits, written as 64 bits with the sign extended. Only the low 32 bits of
what is read count. -/
def int32 : Scalar Int32 := ⟨0, fun n => n.toInt64.toUInt64.toNat, fun n => (UInt32.ofNat n).toInt32⟩

/-- Signed numbers of 64 bits, in two's complement. -/
def int64 : Scalar Int64 := ⟨0, fun n => n.toUInt64.toNat, fun n => (UInt64.ofNat n).toInt64⟩

/-- Truth values. Any number but 0 is true. -/
def bool : Scalar Bool := ⟨false, Bool.toNat, fun n => n != 0⟩

end Scalar

namespace Field

variable {M : Type}

/-- A field with one number. -/
def scalar {α : Type} [DecidableEq α] (kind : Scalar α) (tag : Nat) (get : M → α)
    (set : M → α → M) : Field M where
  tag := tag
  write m :=
    if get m = kind.default then []
    else [Key.write ⟨tag, .varint⟩ ++ Varint.write (kind.toNat (get m))]
  read _ wire m bytes :=
    if wire = .varint then
      (Varint.read? bytes).map fun (n, rest) => (set m (kind.ofNat n), rest)
    else none
  overlay m n := if get n = kind.default then m else set m (get n)

/-- A field with bytes. -/
def bytes (tag : Nat) (get : M → List UInt8) (set : M → List UInt8 → M) : Field M where
  tag := tag
  write m := if get m = [] then [] else [Key.write ⟨tag, .delimited⟩ ++ writeDelimited (get m)]
  read _ wire m bytes :=
    if wire = .delimited then
      (readDelimited? bytes).map fun (content, rest) => (set m content, rest)
    else none
  overlay m n := if get n = [] then m else set m (get n)

/-- A field with a text, which has to be valid UTF-8. -/
def text (tag : Nat) (get : M → String) (set : M → String → M) : Field M where
  tag := tag
  write m :=
    if get m = "" then []
    else [Key.write ⟨tag, .delimited⟩ ++ writeDelimited (Text.Utf8.encode (get m))]
  read _ wire m bytes :=
    if wire = .delimited then
      match readDelimited? bytes with
      | none => none
      | some (content, rest) => (Text.Utf8.decode? content).map fun s => (set m s, rest)
    else none
  overlay m n := if get n = "" then m else set m (get n)

/-- A field with a message that may be absent. -/
def message {N : Type} [Message N] (tag : Nat) (get : M → Option N) (set : M → Option N → M) :
    Field M where
  tag := tag
  write m :=
    match get m with
    | none => []
    | some n => [Key.write ⟨tag, .delimited⟩ ++ writeDelimited (encode n)]
  read budget wire m bytes :=
    if wire = .delimited then
      match budget, readDelimited? bytes with
      | budget + 1, some (content, rest) =>
        (merge budget ((get m).getD Message.empty) content).map fun n => (set m (some n), rest)
      | _, _ => none
    else none
  overlay m n :=
    match get n with
    | none => m
    | some inner => set m (some (Wire.overlay ((get m).getD Message.empty) inner))

end Field

/-- An entry of a map between texts, a message of its own on the wire. -/
structure MapEntry where
  key : String
  value : String
  deriving DecidableEq

instance : Message MapEntry where
  empty := ⟨"", ""⟩
  fields := [
    .text 1 MapEntry.key fun e k => { e with key := k },
    .text 2 MapEntry.value fun e v => { e with value := v }]

namespace Field

variable {M : Type}

/-- The record of one entry of a map field. -/
def entryRecord (tag : Nat) (e : String × String) : List UInt8 :=
  Key.write ⟨tag, .delimited⟩ ++ writeDelimited (encode (MapEntry.mk e.1 e.2))

/-- A field with a map between texts. Each entry is a field on the wire, and is read as
length-delimited whatever wire type its key names. -/
def map (tag : Nat) (get : M → SortedMap String) (set : M → SortedMap String → M) : Field M where
  tag := tag
  write m := (get m).entries.map (entryRecord tag)
  read budget _ m bytes :=
    match budget, readDelimited? bytes with
    | budget + 1, some (content, rest) =>
      (merge budget (Message.empty (M := MapEntry)) content).map fun e =>
        (set m ((get m).insert e.key e.value), rest)
    | _, _ => none
  overlay m n := set m ((get m).union (get n))

end Field

end ScriptClient.Wire
