import ScriptClient.Log.Directive
import ScriptClient.Text.Pieces

set_option autoImplicit false

/-! # Filters

Which events a log shows. A filter is a list of directives, each a verbosity for some events. Of
those that fit an event the closest one decides; without any the event is not shown. -/

namespace ScriptClient.Log

/-- A list of directives. -/
abbrev Filter := List Directive

namespace Filter

/-- Shows errors of all targets. -/
def errorsOnly : Filter := [{ verbosity := Level.error.verbosity }]

/-- Reads directives between commas; empty ones are passed over. Without any, errors are shown. The
first directive that cannot be used decides why the filter cannot. -/
def parse (s : String) : Except FilterError Filter :=
  let pieces := (Text.splitAt ',' s.toList).filter (· ≠ [])
  if pieces = [] then .ok errorsOnly else pieces.mapM Directive.parse

/-- The directive that decides about an event: of those that fit, the closest one, and of equally
close ones the last. -/
def decisive? (f : Filter) (e : Event) : Option Directive :=
  (f.filter (·.fits e)).foldl
    (fun best d =>
      match best with
      | none => some d
      | some b => if b.yieldsTo d then some d else some b)
    none

/-- Whether an event is shown. -/
def shows (f : Filter) (e : Event) : Bool :=
  match f.decisive? e with
  | none => false
  | some d => e.level.verbosity ≤ d.verbosity

end Filter

end ScriptClient.Log
