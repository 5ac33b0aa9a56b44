import ClusterAccess.Host
import ClusterAccess.Text.Number
import ClusterAccess.Text.Escape

/-!
What can be wrong with a configuration.
-/

namespace ClusterAccess

/-- Why the text of a setting is not a value of it. -/
inductive ValueFault where
  | notBoolean (text : String)
  | notNumber (text : String) (cause : Text.NumberFault)
  | notChoice (text cause : String)
  deriving DecidableEq

def ValueFault.message : ValueFault → String
  | notBoolean text => "invalid boolean value '" ++ text ++ "'"
  | notNumber text cause => "'" ++ text ++ "': " ++ cause.message
  | notChoice text cause => "'" ++ text ++ "': " ++ cause

inductive Violation where
  | noCapacity (setting : String)
  | blankUserHeader
  | strictWithoutAuth
  deriving DecidableEq

def Violation.message : Violation → String
  | noCapacity setting => setting ++ " must be at least 1"
  | blankUserHeader => "auth.userid_header must name a header unless auth.disable_auth is set"
  | strictWithoutAuth =>
    "CRUD_BACKEND_DISABLE_AUTH=true cannot be combined with CRUD_BACKEND_AUTH_GATE_MODE=strict: " ++
      "strict gating needs a caller identity. Unset one of them."

inductive ConfigFault where
  | invalidValue (key : String) (cause : ValueFault)
  | unreadableFile (path : PathName) (cause : FileFault)
  | malformedFile (path : PathName)
  | violation (rule : Violation)
  deriving DecidableEq

namespace ConfigFault

def message : ConfigFault → String
  | invalidValue key cause => "Invalid value for " ++ key ++ ": " ++ cause.message
  | unreadableFile path cause =>
    "Failed to read config file " ++ path.display ++ ": " ++ cause.message
  | malformedFile path => "Failed to parse TOML config at " ++ path.display
  | violation rule => "Validation error: " ++ rule.message

open Text in
def inspect : ConfigFault → String
  | invalidValue key cause =>
    record "InvalidValue" [("key", quote key), ("message", quote cause.message)]
  | unreadableFile path cause =>
    record "FileRead" [("path", path.inspect), ("source", quote cause.message)]
  | malformedFile path => partialRecord "TomlParse" [("path", path.inspect)]
  | violation rule => wrapped "Validation" (quote rule.message)

end ConfigFault

end ClusterAccess
