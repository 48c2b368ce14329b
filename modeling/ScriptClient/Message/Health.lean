import ScriptClient.Wire.Message

set_option autoImplicit false

/-! # Messages about health

The probe of the server's health, its answer, and the label that is shown for the status in the
answer: its name (`statusLabel_code`), or its number if it has none (`statusLabel_of_forall_ne`). -/

namespace ScriptClient

open Wire

/-- Asks for the health of a service. The empty name asks for the server as a whole. -/
structure HealthCheckRequest where
  service : String := ""
  deriving DecidableEq

instance : Message HealthCheckRequest where
  empty := {}
  fields := [.text 1 HealthCheckRequest.service fun m v => { m with service := v }]

/-- The health of a service. The status may be a number that has no name yet. -/
structure HealthCheckResponse where
  status : Int32 := 0
  deriving DecidableEq

instance : Message HealthCheckResponse where
  empty := {}
  fields := [.scalar .int32 1 HealthCheckResponse.status fun m v => { m with status := v }]

/-- The statuses that have a name. -/
inductive ServingStatus where
  | unknown
  | serving
  | notServing
  | serviceUnknown
  deriving DecidableEq, Repr

namespace ServingStatus

/-- All statuses that have a name. -/
def all : List ServingStatus := [unknown, serving, notServing, serviceUnknown]

/-- The number of a status on the wire. -/
def code : ServingStatus → Int32
  | unknown => 0
  | serving => 1
  | notServing => 2
  | serviceUnknown => 3

/-- The name of a status. -/
def name : ServingStatus → String
  | unknown => "UNKNOWN"
  | serving => "SERVING"
  | notServing => "NOT_SERVING"
  | serviceUnknown => "SERVICE_UNKNOWN"

/-- The status with a number. -/
def ofCode? (n : Int32) : Option ServingStatus :=
  all.find? (·.code = n)

/-- The status with a name. -/
def ofName? (s : String) : Option ServingStatus :=
  all.find? (·.name = s)

@[simp]
theorem ofCode?_code (s : ServingStatus) : ofCode? s.code = some s := by
  cases s <;> rfl

theorem ofCode?_eq_some_iff {n : Int32} {s : ServingStatus} : ofCode? n = some s ↔ n = s.code := by
  constructor
  · intro h
    have := List.find?_some h
    simp only [decide_eq_true_eq] at this
    exact this.symm
  · rintro rfl
    exact ofCode?_code s

theorem ofCode?_eq_none_iff {n : Int32} : ofCode? n = none ↔ ∀ s : ServingStatus, n ≠ s.code := by
  rw [Option.eq_none_iff_forall_ne_some]
  exact forall_congr' fun s => not_congr ofCode?_eq_some_iff

@[simp]
theorem ofName?_name (s : ServingStatus) : ofName? s.name = some s := by
  cases s <;> rfl

end ServingStatus

/-- What is shown for a status: its name, or its number if it has none. -/
def statusLabel (n : Int32) : String :=
  match ServingStatus.ofCode? n with
  | some s => s.name
  | none => toString n.toInt

/-- A status with a name is shown by its name. -/
@[simp]
theorem statusLabel_code (s : ServingStatus) : statusLabel s.code = s.name := by
  rw [statusLabel, ServingStatus.ofCode?_code]

/-- A status without a name is shown as its number. -/
theorem statusLabel_of_forall_ne {n : Int32} (h : ∀ s : ServingStatus, n ≠ s.code) :
    statusLabel n = toString n.toInt := by
  rw [statusLabel, ServingStatus.ofCode?_eq_none_iff.mpr h]

end ScriptClient
