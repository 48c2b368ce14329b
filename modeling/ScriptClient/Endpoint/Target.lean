import ScriptClient.Endpoint.Authority
import ScriptClient.Endpoint.PathAndQuery
import ScriptClient.Text.Position
import ScriptClient.Text.Quoted

set_option autoImplicit false

/-! # Targets

A target is what a user names as the server: a host with a number after a colon, or a URI. It is
accepted if the URI it stands for has an authority, and a path and query that a URI may hold. -/

namespace ScriptClient.Endpoint

/-- The scheme of targets that name none. -/
def plainScheme : List Char := "http://".toList

/-- The scheme of targets that ask for encryption. -/
def secureScheme : List Char := "https://".toList

/-- The URI that a target stands for. -/
def uriOf (target : List Char) : List Char :=
  if plainScheme.isPrefixOf target || secureScheme.isPrefixOf target then target
  else plainScheme ++ target

/-- Whether the character ends an authority. -/
def endsAuthority (c : Char) : Bool :=
  c = '/' || c = '?' || c = '#'

/-- The parts of a URI that has a scheme. -/
structure Uri where
  secure : Bool
  authority : List Char
  pathAndQuery : List Char
  deriving DecidableEq

/-- The most bytes a URI may have. -/
def maxUriBytes : Nat := 65534

/-- Reads the parts after the scheme. -/
def readAfterScheme? (secure : Bool) (cs : List Char) : Option Uri :=
  let authority := cs.takeWhile (!endsAuthority ·)
  if isAuthority authority then
    (pathAndQuery? (cs.dropWhile (!endsAuthority ·))).map fun path => ⟨secure, authority, path⟩
  else none

/-- Reads a URI with one of the two schemes. -/
def readUri? (cs : List Char) : Option Uri :=
  if Text.byteCount cs ≤ maxUriBytes then
    if plainScheme.isPrefixOf cs then readAfterScheme? false (cs.drop plainScheme.length)
    else if secureScheme.isPrefixOf cs then readAfterScheme? true (cs.drop secureScheme.length)
    else none
  else none

/-- A target that is not accepted, and why. -/
structure Refusal where
  target : String
  reason : String
  deriving DecidableEq, Repr

namespace Refusal

/-- The words for a refusal. -/
def message (r : Refusal) : String :=
  "invalid gRPC endpoint '" ++ r.target ++ "': " ++ r.reason

/-- The refusal with its parts named. -/
def debug (r : Refusal) : String :=
  "InvalidEndpoint \x7b target: " ++ Text.Quoted.encode r.target ++ ", error: " ++
    Text.Quoted.encode r.reason ++ " \x7d"

end Refusal

/-- The URI of a target, or its refusal. -/
def ofTarget (target : String) : Except Refusal Uri :=
  match readUri? (uriOf target.toList) with
  | some uri => .ok uri
  | none => .error ⟨target, "invalid URI"⟩

end ScriptClient.Endpoint
