import ScriptClient.Proofs.Wire.Overlay

set_option autoImplicit false

/-! # The schema of the service

The seven types of messages, and what all of them have in common: a message that is written after
other bytes, with the entries of its maps in any order, is laid over the message that those bytes
hold. Alone it is read back as it was (`Schema.decode_append`). -/

namespace ScriptClient

open Wire

/-- The types of messages. -/
inductive Schema where
  | executeRequest
  | requestOptions
  | executeResponse
  | executionMetadata
  | streamChunk
  | healthCheckRequest
  | healthCheckResponse
  deriving DecidableEq, Repr

namespace Schema

/-- The messages of a type. -/
def Carrier : Schema → Type
  | executeRequest => ExecuteRequest
  | requestOptions => RequestOptions
  | executeResponse => ExecuteResponse
  | executionMetadata => ExecutionMetadata
  | streamChunk => StreamChunk
  | healthCheckRequest => HealthCheckRequest
  | healthCheckResponse => HealthCheckResponse

instance : (s : Schema) → Message s.Carrier
  | executeRequest => inferInstanceAs (Message ExecuteRequest)
  | requestOptions => inferInstanceAs (Message RequestOptions)
  | executeResponse => inferInstanceAs (Message ExecuteResponse)
  | executionMetadata => inferInstanceAs (Message ExecutionMetadata)
  | streamChunk => inferInstanceAs (Message StreamChunk)
  | healthCheckRequest => inferInstanceAs (Message HealthCheckRequest)
  | healthCheckResponse => inferInstanceAs (Message HealthCheckResponse)

instance : (s : Schema) → LawfulMessage s.Carrier
  | executeRequest => inferInstanceAs (LawfulMessage ExecuteRequest)
  | requestOptions => inferInstanceAs (LawfulMessage RequestOptions)
  | executeResponse => inferInstanceAs (LawfulMessage ExecuteResponse)
  | executionMetadata => inferInstanceAs (LawfulMessage ExecutionMetadata)
  | streamChunk => inferInstanceAs (LawfulMessage StreamChunk)
  | healthCheckRequest => inferInstanceAs (LawfulMessage HealthCheckRequest)
  | healthCheckResponse => inferInstanceAs (LawfulMessage HealthCheckResponse)

/-- The second message laid over the first. -/
def overlaid : (s : Schema) → s.Carrier → s.Carrier → s.Carrier
  | executeRequest => ExecuteRequest.overlaid
  | requestOptions => RequestOptions.overlaid
  | executeResponse => ExecuteResponse.overlaid
  | executionMetadata => ExecutionMetadata.overlaid
  | streamChunk => StreamChunk.overlaid
  | healthCheckRequest => HealthCheckRequest.overlaid
  | healthCheckResponse => HealthCheckResponse.overlaid

theorem overlay_eq_overlaid (s : Schema) (x m : s.Carrier) : overlay x m = s.overlaid x m := by
  cases s with
  | executeRequest => exact ExecuteRequest.overlay_eq x m
  | requestOptions => exact RequestOptions.overlay_eq x m
  | executeResponse => exact ExecuteResponse.overlay_eq x m
  | executionMetadata => exact ExecutionMetadata.overlay_eq x m
  | streamChunk => exact StreamChunk.overlay_eq x m
  | healthCheckRequest => exact HealthCheckRequest.overlay_eq x m
  | healthCheckResponse => exact HealthCheckResponse.overlay_eq x m

/-- **Writing after other bytes.** A message of the schema can be written with the entries of each
of its maps in any order; `encode` chooses one. Written after bytes that hold a message, it is laid
over that message; alone, it is read back as it was. -/
theorem decode_append (s : Schema) (m : s.Carrier) {written : List UInt8} (h : Written m written)
    (hsize : written.length < UInt64.size / 2) :
    Written m (encode m) ∧ decode written = some m ∧
      ∀ (bytes : List UInt8) (x : s.Carrier), decode bytes = some x →
        decode (bytes ++ written) = some (s.overlaid x m) := by
  have hsize' : written.length < UInt64.size := Nat.lt_trans hsize (by decide)
  refine ⟨written_encode m, decode_written h hsize', ?_⟩
  intro bytes x hx
  rw [← overlay_eq_overlaid]
  exact decode_append_written hx h hsize'

/-- A response with two headers, to be laid over another one. -/
def laterResponse : ExecuteResponse :=
  { statusCode := 200, headers := .ofList [("A", "1"), ("B", "2")] }

/-- The later response, its headers in the order of their arrival. -/
def laterBytes : List UInt8 :=
  [8, 200, 1] ++ [18, 6, 10, 1, 66, 18, 1, 50] ++ [18, 6, 10, 1, 65, 18, 1, 49]

/-- Headers and status of the later response win, and the body of the earlier one stays. -/
theorem decode_later_response :
    Written laterResponse laterBytes ∧ laterBytes.length < UInt64.size / 2 ∧
      decode ([8, 144, 3, 18, 6, 10, 1, 66, 18, 1, 57, 26, 1, 104] ++ laterBytes) =
        some { laterResponse with body := [104] } := by
  have hsize : laterBytes.length < UInt64.size / 2 := by decide
  have hwritten : Written laterResponse laterBytes := by
    refine ⟨[[8, 200, 1]], _, by decide +kernel, ⟨[[18, 6, 10, 1, 66, 18, 1, 50],
      [18, 6, 10, 1, 65, 18, 1, 49]], [], by decide +kernel, ?_, rfl⟩, rfl⟩
    exact ⟨[], [], by decide +kernel, ⟨[], [], by decide +kernel, rfl, rfl⟩, rfl⟩
  let earlier : ExecuteResponse :=
    { statusCode := 400, headers := .ofList [("B", "9")], body := [104] }
  have hearlier : decode [8, 144, 3, 18, 6, 10, 1, 66, 18, 1, 57, 26, 1, 104] = some earlier := by
    decide +kernel
  refine ⟨hwritten, hsize, ?_⟩
  exact (decode_append .executeResponse laterResponse hwritten hsize).2.2 _ earlier hearlier

end Schema

end ScriptClient
