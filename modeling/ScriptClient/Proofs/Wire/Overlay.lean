import ScriptClient.Message.Health
import ScriptClient.Message.Script
import ScriptClient.Proofs.Wire.Kind

set_option autoImplicit false

/-! # Messages over messages

What it means for each type of messages of the service that one message is laid over another: a
number, text or body that is not the default replaces the one under it, maps are united, and a
message inside is laid over the one inside. A message that is written after other bytes is laid over
the message that those bytes hold (`Schema.decode_append`). -/

namespace ScriptClient

open Wire

/-! ## The messages of the service -/

namespace RequestOptions

/-- The second message laid over the first. -/
def overlaid (x m : RequestOptions) : RequestOptions where
  timeoutMs := newer 0 x.timeoutMs m.timeoutMs
  enableProfiling := newer false x.enableProfiling m.enableProfiling
  traceParent := newer "" x.traceParent m.traceParent

theorem overlaid_empty (m : RequestOptions) : overlaid {} m = m := by
  simp only [overlaid, newer_default]

theorem overlay_eq (x m : RequestOptions) : overlay x m = x.overlaid m := by
  simp only [overlay, Message.fields, List.foldl_cons, List.foldl_nil]
  rw [Field.overlay_scalar fun _ => rfl, Field.overlay_scalar fun _ => rfl,
    Field.overlay_text fun _ => rfl]
  rfl

instance : LawfulMessage RequestOptions where
  depth := 0
  depth_le := Nat.zero_le _
  lawful := by
    intro field hmem
    simp only [Message.fields, List.mem_cons, List.not_mem_nil, or_false] at hmem
    rcases hmem with rfl | rfl | rfl
    · exact Field.lawful_scalar Scalar.lawful_uint32 (by decide) (by decide) _ _
    · exact Field.lawful_scalar Scalar.lawful_bool (by decide) (by decide) _ _
    · exact Field.lawful_text (by decide) (by decide) _ _
  distinct := by decide
  overlay_empty m := (overlay_eq {} m).trans (overlaid_empty m)

end RequestOptions

namespace ExecuteRequest

/-- The second message laid over the first. -/
def overlaid (x m : ExecuteRequest) : ExecuteRequest where
  scriptPath := newer "" x.scriptPath m.scriptPath
  method := newer "" x.method m.method
  queryParams := x.queryParams.union m.queryParams
  formData := x.formData.union m.formData
  serverVars := x.serverVars.union m.serverVars
  cookies := x.cookies.union m.cookies
  contentType := newer "" x.contentType m.contentType
  body := newer [] x.body m.body
  options := newerMessage {} RequestOptions.overlaid x.options m.options

theorem overlaid_empty (m : ExecuteRequest) : overlaid {} m = m := by
  simp only [overlaid, newer_default, SortedMap.empty_union,
    newerMessage_none RequestOptions.overlaid_empty]

theorem overlay_eq (x m : ExecuteRequest) : overlay x m = x.overlaid m := by
  have hoptions : overlay = RequestOptions.overlaid :=
    funext fun x => funext fun m => RequestOptions.overlay_eq x m
  simp only [overlay, Message.fields, List.foldl_cons, List.foldl_nil]
  rw [Field.overlay_text fun _ => rfl, Field.overlay_text fun _ => rfl,
    Field.overlay_text fun _ => rfl, Field.overlay_bytes fun _ => rfl,
    Field.overlay_message fun _ => rfl, hoptions]
  rfl

instance : LawfulMessage ExecuteRequest where
  depth := 1
  depth_le := by decide
  lawful := by
    intro field hmem
    simp only [Message.fields, List.mem_cons, List.not_mem_nil, or_false] at hmem
    rcases hmem with rfl | rfl | rfl | rfl | rfl | rfl | rfl | rfl | rfl
    · exact Field.lawful_text (by decide) (by decide) _ _
    · exact Field.lawful_text (by decide) (by decide) _ _
    · exact Field.lawful_map (fun _ => rfl) (fun _ _ => rfl) (fun _ _ _ => rfl) (by decide)
        (by decide) (by decide)
    · exact Field.lawful_map (fun _ => rfl) (fun _ _ => rfl) (fun _ _ _ => rfl) (by decide)
        (by decide) (by decide)
    · exact Field.lawful_map (fun _ => rfl) (fun _ _ => rfl) (fun _ _ _ => rfl) (by decide)
        (by decide) (by decide)
    · exact Field.lawful_map (fun _ => rfl) (fun _ _ => rfl) (fun _ _ _ => rfl) (by decide)
        (by decide) (by decide)
    · exact Field.lawful_text (by decide) (by decide) _ _
    · exact Field.lawful_bytes (by decide) (by decide) _ _
    · exact Field.lawful_message _ _ (by decide) (by decide) (by decide)
  distinct := by decide
  overlay_empty m := (overlay_eq {} m).trans (overlaid_empty m)

end ExecuteRequest

namespace ExecutionMetadata

/-- The second message laid over the first. -/
def overlaid (x m : ExecutionMetadata) : ExecutionMetadata where
  requestId := newer "" x.requestId m.requestId
  workerId := newer 0 x.workerId m.workerId
  executionTimeUs := newer 0 x.executionTimeUs m.executionTimeUs
  queueWaitUs := newer 0 x.queueWaitUs m.queueWaitUs

theorem overlaid_empty (m : ExecutionMetadata) : overlaid {} m = m := by
  simp only [overlaid, newer_default]

theorem overlay_eq (x m : ExecutionMetadata) : overlay x m = x.overlaid m := by
  simp only [overlay, Message.fields, List.foldl_cons, List.foldl_nil]
  rw [Field.overlay_scalar fun _ => rfl, Field.overlay_scalar fun _ => rfl,
    Field.overlay_scalar fun _ => rfl, Field.overlay_text fun _ => rfl]
  rfl

instance : LawfulMessage ExecutionMetadata where
  depth := 0
  depth_le := Nat.zero_le _
  lawful := by
    intro field hmem
    simp only [Message.fields, List.mem_cons, List.not_mem_nil, or_false] at hmem
    rcases hmem with rfl | rfl | rfl | rfl
    · exact Field.lawful_text (by decide) (by decide) _ _
    · exact Field.lawful_scalar Scalar.lawful_uint32 (by decide) (by decide) _ _
    · exact Field.lawful_scalar Scalar.lawful_int64 (by decide) (by decide) _ _
    · exact Field.lawful_scalar Scalar.lawful_int64 (by decide) (by decide) _ _
  distinct := by decide
  overlay_empty m := (overlay_eq {} m).trans (overlaid_empty m)

end ExecutionMetadata

namespace ExecuteResponse

/-- The second message laid over the first. -/
def overlaid (x m : ExecuteResponse) : ExecuteResponse where
  statusCode := newer 0 x.statusCode m.statusCode
  headers := x.headers.union m.headers
  body := newer [] x.body m.body
  metadata := newerMessage {} ExecutionMetadata.overlaid x.metadata m.metadata

theorem overlaid_empty (m : ExecuteResponse) : overlaid {} m = m := by
  simp only [overlaid, newer_default, SortedMap.empty_union,
    newerMessage_none ExecutionMetadata.overlaid_empty]

theorem overlay_eq (x m : ExecuteResponse) : overlay x m = x.overlaid m := by
  have hmetadata : overlay = ExecutionMetadata.overlaid :=
    funext fun x => funext fun m => ExecutionMetadata.overlay_eq x m
  simp only [overlay, Message.fields, List.foldl_cons, List.foldl_nil]
  rw [Field.overlay_scalar fun _ => rfl, Field.overlay_bytes fun _ => rfl,
    Field.overlay_message fun _ => rfl, hmetadata]
  rfl

instance : LawfulMessage ExecuteResponse where
  depth := 1
  depth_le := by decide
  lawful := by
    intro field hmem
    simp only [Message.fields, List.mem_cons, List.not_mem_nil, or_false] at hmem
    rcases hmem with rfl | rfl | rfl | rfl
    · exact Field.lawful_scalar Scalar.lawful_int32 (by decide) (by decide) _ _
    · exact Field.lawful_map (fun _ => rfl) (fun _ _ => rfl) (fun _ _ _ => rfl) (by decide)
        (by decide) (by decide)
    · exact Field.lawful_bytes (by decide) (by decide) _ _
    · exact Field.lawful_message _ _ (by decide) (by decide) (by decide)
  distinct := by decide
  overlay_empty m := (overlay_eq {} m).trans (overlaid_empty m)

end ExecuteResponse

namespace StreamChunk

/-- The second message laid over the first. -/
def overlaid (x m : StreamChunk) : StreamChunk where
  data := newer [] x.data m.data
  isFinal := newer false x.isFinal m.isFinal
  sequence := newer 0 x.sequence m.sequence

theorem overlaid_empty (m : StreamChunk) : overlaid {} m = m := by
  simp only [overlaid, newer_default]

theorem overlay_eq (x m : StreamChunk) : overlay x m = x.overlaid m := by
  simp only [overlay, Message.fields, List.foldl_cons, List.foldl_nil]
  rw [Field.overlay_scalar fun _ => rfl, Field.overlay_scalar fun _ => rfl,
    Field.overlay_bytes fun _ => rfl]
  rfl

instance : LawfulMessage StreamChunk where
  depth := 0
  depth_le := Nat.zero_le _
  lawful := by
    intro field hmem
    simp only [Message.fields, List.mem_cons, List.not_mem_nil, or_false] at hmem
    rcases hmem with rfl | rfl | rfl
    · exact Field.lawful_bytes (by decide) (by decide) _ _
    · exact Field.lawful_scalar Scalar.lawful_bool (by decide) (by decide) _ _
    · exact Field.lawful_scalar Scalar.lawful_uint64 (by decide) (by decide) _ _
  distinct := by decide
  overlay_empty m := (overlay_eq {} m).trans (overlaid_empty m)

end StreamChunk

namespace HealthCheckRequest

/-- The second message laid over the first. -/
def overlaid (x m : HealthCheckRequest) : HealthCheckRequest where
  service := newer "" x.service m.service

theorem overlaid_empty (m : HealthCheckRequest) : overlaid {} m = m := by
  simp only [overlaid, newer_default]

theorem overlay_eq (x m : HealthCheckRequest) : overlay x m = x.overlaid m := by
  simp only [overlay, Message.fields, List.foldl_cons, List.foldl_nil]
  rw [Field.overlay_text fun _ => rfl]
  rfl

instance : LawfulMessage HealthCheckRequest where
  depth := 0
  depth_le := Nat.zero_le _
  lawful := by
    intro field hmem
    rw [List.mem_singleton.mp hmem]
    exact Field.lawful_text (by decide) (by decide) _ _
  distinct := by decide
  overlay_empty m := (overlay_eq {} m).trans (overlaid_empty m)

end HealthCheckRequest

namespace HealthCheckResponse

/-- The second message laid over the first. -/
def overlaid (x m : HealthCheckResponse) : HealthCheckResponse where
  status := newer 0 x.status m.status

theorem overlaid_empty (m : HealthCheckResponse) : overlaid {} m = m := by
  simp only [overlaid, newer_default]

theorem overlay_eq (x m : HealthCheckResponse) : overlay x m = x.overlaid m := by
  simp only [overlay, Message.fields, List.foldl_cons, List.foldl_nil]
  rw [Field.overlay_scalar fun _ => rfl]
  rfl

instance : LawfulMessage HealthCheckResponse where
  depth := 0
  depth_le := Nat.zero_le _
  lawful := by
    intro field hmem
    rw [List.mem_singleton.mp hmem]
    exact Field.lawful_scalar Scalar.lawful_int32 (by decide) (by decide) _ _
  distinct := by decide
  overlay_empty m := (overlay_eq {} m).trans (overlaid_empty m)

end HealthCheckResponse

end ScriptClient
