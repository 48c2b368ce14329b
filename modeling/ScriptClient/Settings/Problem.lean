import ScriptClient.Text.Quoted

set_option autoImplicit false

/-! # Problems with settings

Why the value of a variable cannot be used. -/

namespace ScriptClient.Settings

/-- Why the value of a variable cannot be used. -/
inductive Problem where
  /-- The value is not in the form the variable has. -/
  | parse (key value error : String)
  /-- The value is in the right form and not allowed. -/
  | invalid (key message : String)
  deriving DecidableEq, Repr

namespace Problem

/-- The words for a problem. -/
def message : Problem → String
  | .parse key value error => "failed to parse " ++ key ++ "='" ++ value ++ "': " ++ error
  | .invalid key message => "invalid value for " ++ key ++ ": " ++ message

/-- The problem with its parts named. -/
def debug : Problem → String
  | .parse key value error =>
    "Parse \x7b key: " ++ Text.Quoted.encode key ++ ", value: " ++ Text.Quoted.encode value ++
      ", error: " ++ Text.Quoted.encode error ++ " \x7d"
  | .invalid key message =>
    "Invalid \x7b key: " ++ Text.Quoted.encode key ++ ", message: " ++ Text.Quoted.encode message ++
      " \x7d"

end Problem

end ScriptClient.Settings
