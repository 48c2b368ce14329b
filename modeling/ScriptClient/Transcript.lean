import ScriptClient.Rpc.Failure
import ScriptClient.Session.Basic

set_option autoImplicit false

/-! # Transcripts

The lines that a run writes for people: a banner with the target, numbered sections, and indented
fields under them. Each function gives the whole text of its lines, ends included. -/

namespace ScriptClient.Transcript

/-- A line that is not indented. -/
def line (text : String) : String :=
  text ++ "\n"

/-- An empty line. -/
def blank : String := line ""

/-- The banner with the target. -/
def header (target : String) : String :=
  line "=== tokio_php Rust gRPC Client ===" ++ line ("Connecting to: " ++ target) ++ blank

/-- The title of a numbered section. -/
def title (index : Nat) (name : String) : String :=
  line (toString index ++ ". " ++ name ++ ":")

/-- The indentation of lines under a title. -/
def indent : String := "   "

/-- A named value under a title. -/
def field (name value : String) : String :=
  line (indent ++ name ++ ": " ++ value)

/-- A failed call under a title. -/
def failure (f : Rpc.Failure) : String :=
  field "Error" f.display

end ScriptClient.Transcript
