import ScriptClient.Text.Quoted

set_option autoImplicit false

/-! # Failed calls

The status codes that a call may end with, and a failed call: its code and the detail that came
with it. -/

namespace ScriptClient.Rpc

/-- The codes that a call may end with. -/
inductive Code where
  | ok
  | cancelled
  | unknown
  | invalidArgument
  | deadlineExceeded
  | notFound
  | alreadyExists
  | permissionDenied
  | resourceExhausted
  | failedPrecondition
  | aborted
  | outOfRange
  | unimplemented
  | internal
  | unavailable
  | dataLoss
  | unauthenticated
  deriving DecidableEq, Repr

namespace Code

/-- All codes in the order of their numbers. -/
def all : List Code :=
  [ok, cancelled, unknown, invalidArgument, deadlineExceeded, notFound, alreadyExists,
    permissionDenied, resourceExhausted, failedPrecondition, aborted, outOfRange, unimplemented,
    internal, unavailable, dataLoss, unauthenticated]

/-- The code with a number. A number without a code is unknown. -/
def ofNumber (n : Int) : Code :=
  if n < 0 then unknown else all.getD n.toNat unknown

/-- The number of a code. -/
def number (c : Code) : Nat :=
  all.idxOf c

/-- The name of a code. -/
def name : Code → String
  | ok => "Ok"
  | cancelled => "Cancelled"
  | unknown => "Unknown"
  | invalidArgument => "InvalidArgument"
  | deadlineExceeded => "DeadlineExceeded"
  | notFound => "NotFound"
  | alreadyExists => "AlreadyExists"
  | permissionDenied => "PermissionDenied"
  | resourceExhausted => "ResourceExhausted"
  | failedPrecondition => "FailedPrecondition"
  | aborted => "Aborted"
  | outOfRange => "OutOfRange"
  | unimplemented => "Unimplemented"
  | internal => "Internal"
  | unavailable => "Unavailable"
  | dataLoss => "DataLoss"
  | unauthenticated => "Unauthenticated"

@[simp]
theorem ofNumber_number (c : Code) : ofNumber c.number = c := by
  cases c <;> decide

end Code

/-- A failed call: the code it ended with, and its detail. -/
structure Failure where
  code : Code
  message : String
  deriving DecidableEq, Repr

namespace Failure

/-- What a transcript shows for the failure. -/
def display (f : Failure) : String :=
  f.message ++ " (code: " ++ f.code.name ++ ")"

/-- The failure with its parts named. -/
def debug (f : Failure) : String :=
  "RpcError \x7b code: " ++ f.code.name ++ ", message: " ++ Text.Quoted.encode f.message ++ " \x7d"

end Failure

end ScriptClient.Rpc
