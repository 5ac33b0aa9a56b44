import ClusterAccess.Config.Document
import ClusterAccess.Config.Environment
import ClusterAccess.Config.Resolved
import ClusterAccess.Toml.Reader

/-!
Where a configuration comes from. Each source gives a layer, and has its precedence.
-/

namespace ClusterAccess

inductive Precedence where
  | defaults
  | configFile
  | environment
  deriving DecidableEq

def Precedence.level : Precedence → Nat
  | defaults => 10
  | configFile => 20
  | environment => 50

inductive ConfigSource where
  | defaults
  | file (path : PathName)
  | environment
  /-- Any other source, of which only the outcome of loading it is known. -/
  | given (name : String) (precedence : Precedence) (outcome : Except ConfigFault ConfigLayer)

namespace ConfigSource

def fixed (precedence : Precedence) (layer : ConfigLayer) : ConfigSource :=
  given "fixed" precedence (.ok layer)

def name : ConfigSource → String
  | defaults => "defaults"
  | file _ => "toml-config"
  | environment => "environment"
  | given name .. => name

def precedence : ConfigSource → Precedence
  | defaults => .defaults
  | file _ => .configFile
  | environment => .environment
  | given _ precedence _ => precedence

/-- A file that is not there sets nothing. -/
def loadFile (host : Host) (path : PathName) : Except ConfigFault ConfigLayer :=
  match host.readText path with
  | .error fault => if fault.isAbsence then .ok {} else .error (.unreadableFile path fault)
  | .ok cs => match (Toml.parse? cs).bind Toml.reading.layer with
    | some layer => .ok layer
    | none => .error (.malformedFile path)

def load (host : Host) : ConfigSource → Except ConfigFault ConfigLayer
  | defaults => .ok {}
  | file path => loadFile host path
  | environment => Environment.layer host
  | given _ _ outcome => outcome

end ConfigSource

end ClusterAccess
