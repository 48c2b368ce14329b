set_option autoImplicit false

/-! # Arguments

What may stand on the command line: `--host` with a value, `--raw`, and requests for help or the
version. Arguments are taken from left to right, and the first that is wrong or asks for something
else than a run decides. -/

namespace ScriptClient.CommandLine

/-- The arguments of a run. -/
structure Arguments where
  host : Option String := none
  raw : Bool := false
  deriving DecidableEq, Repr

/-- Why the arguments are wrong. -/
inductive Misuse where
  | unexpected (argument : String)
  | repeated (option : String)
  | valueMissing (option : String)
  | valueUnexpected (option : String)
  deriving DecidableEq, Repr

/-- The words for a misuse. -/
def Misuse.message : Misuse → String
  | .unexpected a => "error: unexpected argument '" ++ a ++ "' found"
  | .repeated o => "error: the argument '" ++ o ++ "' cannot be used multiple times"
  | .valueMissing o => "error: a value is required for '" ++ o ++ "' but none was supplied"
  | .valueUnexpected o => "error: unexpected value for '" ++ o ++ "' found"

/-- What the arguments ask for. -/
inductive Command where
  | run (arguments : Arguments)
  | help
  | version
  | misuse (reason : Misuse)
  deriving DecidableEq, Repr

/-- Whether an argument looks like an option and so is no value. -/
def looksLikeOption (argument : String) : Bool :=
  match argument.toList with
  | '-' :: _ :: _ => true
  | _ => false

/-- One argument, cut at its first equals sign if it is a long option. -/
inductive Shape where
  /-- Two dashes alone: no options follow. -/
  | separator
  | long (name : String) (value : Option String)
  /-- A dash and letters; the first one decides. -/
  | short (letter : Char)
  | positional

/-- The shape of an argument. -/
def Shape.of (argument : String) : Shape :=
  match argument.toList with
  | ['-', '-'] => separator
  | '-' :: '-' :: cs =>
    match cs.dropWhile (· ≠ '=') with
    | [] => long (String.ofList cs) none
    | _ :: value => long (String.ofList (cs.takeWhile (· ≠ '='))) (some (String.ofList value))
  | '-' :: c :: _ => short c
  | _ => positional

namespace Command

/-- What the arguments ask for, given those before them. -/
def parseAfter (before : Arguments) : List String → Command
  | [] => .run before
  | argument :: rest =>
    match Shape.of argument with
    | .separator =>
      match rest with
      | [] => .run before
      | a :: _ => .misuse (.unexpected a)
    | .positional => .misuse (.unexpected argument)
    | .short 'V' => .version
    | .short 'h' => .help
    | .short _ => .misuse (.unexpected argument)
    | .long "version" none => .version
    | .long "help" none => .help
    | .long "raw" none =>
      if before.raw then .misuse (.repeated "--raw") else parseAfter { before with raw := true } rest
    | .long "host" (some value) =>
      if before.host.isSome then .misuse (.repeated "--host <HOST>")
      else parseAfter { before with host := some value } rest
    | .long "host" none =>
      match rest with
      | [] => .misuse (.valueMissing "--host <HOST>")
      | value :: rest =>
        if looksLikeOption value then .misuse (.valueMissing "--host <HOST>")
        else if before.host.isSome then .misuse (.repeated "--host <HOST>")
        else parseAfter { before with host := some value } rest
    | .long name (some _) =>
      if name ∈ ["version", "help", "raw"] then .misuse (.valueUnexpected ("--" ++ name))
      else .misuse (.unexpected ("--" ++ name))
    | .long name none => .misuse (.unexpected ("--" ++ name))

/-- What the arguments ask for. -/
def parse (arguments : List String) : Command :=
  parseAfter {} arguments

end Command

end ScriptClient.CommandLine
