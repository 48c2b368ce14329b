set_option autoImplicit false

/-! # Modes of invocation

A run makes its calls either through the messages it knows or as opaque bytes. The first needs the
message types to be built in. -/

namespace ScriptClient

/-- How calls are made. -/
inductive Mode where
  /-- With messages. -/
  | typed
  /-- With opaque bytes. -/
  | raw
  deriving DecidableEq, Repr

namespace Mode

/-- The mode of a run: typed if messages are built in and raw calls are not forced. -/
def select (bindings forceRaw : Bool) : Mode :=
  if bindings && !forceRaw then typed else raw

/-- The mode that is used when one is asked for: without messages it is raw. -/
def resolve (bindings : Bool) (mode : Mode) : Mode :=
  if bindings then mode else raw

/-- The name of a mode. -/
def name : Mode → String
  | typed => "typed"
  | raw => "raw"

end Mode

end ScriptClient
