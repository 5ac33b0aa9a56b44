import ClusterAccess.Config.Fault
import ClusterAccess.Config.Layer

/-!
Configuration from environment variables, one for each setting. A variable that is empty sets
nothing. Of several wrong values the first one in the order of the layer is reported.
-/

namespace ClusterAccess.Environment

def capacityLimit : Nat := Nat.pow 2 64 - 1

def boolean (text : String) : Except ValueFault Bool :=
  let word := Text.lowerAscii text
  if text = "1" ∨ word = "true" then .ok true
  else if text = "0" ∨ word = "false" then .ok false
  else .error (.notBoolean text)

def capacity (text : String) : Except ValueFault Nat :=
  (Text.readNumber capacityLimit text).mapError (.notNumber text)

def gateMode (text : String) : Except ValueFault GateMode :=
  (GateMode.readSetting text).mapError (.notChoice text)

def logFormat (text : String) : Except ValueFault LogFormat :=
  (LogFormat.read text).mapError (.notChoice text)

def typed (host : Host) (name : String) (read : String → Except ValueFault α) :
    Except ConfigFault (Option α) :=
  match host.nonEmpty? name with
  | none => .ok none
  | some text => ((read text).map some).mapError (.invalidValue name)

def kubeLayer (host : Host) : Except ConfigFault KubeLayer := do
  return { kubeconfig := host.nonEmpty? "CRUD_BACKEND_KUBECONFIG"
           context := host.nonEmpty? "CRUD_BACKEND_KUBE_CONTEXT"
           preferInCluster := ← typed host "CRUD_BACKEND_KUBE_PREFER_IN_CLUSTER" boolean }

def cacheLayer (host : Host) : Except ConfigFault CacheLayer := do
  return { core := ← typed host "CRUD_BACKEND_CACHE_CORE_CAPACITY" capacity
           storage := ← typed host "CRUD_BACKEND_CACHE_STORAGE_CAPACITY" capacity
           customObjects := ← typed host "CRUD_BACKEND_CACHE_CUSTOM_OBJECTS_CAPACITY" capacity }

def authLayer (host : Host) : Except ConfigFault AuthLayer := do
  return { userHeader := host.nonEmpty? "CRUD_BACKEND_USERID_HEADER"
           userPrefix := host.nonEmpty? "CRUD_BACKEND_USERID_PREFIX"
           disableAuth := ← typed host "CRUD_BACKEND_DISABLE_AUTH" boolean
           gateMode := ← typed host "CRUD_BACKEND_AUTH_GATE_MODE" gateMode }

def loggingLayer (host : Host) : Except ConfigFault LoggingLayer := do
  return { level := host.nonEmpty? "CRUD_BACKEND_LOG_LEVEL"
           format := ← typed host "CRUD_BACKEND_LOG_FORMAT" logFormat }

def layer (host : Host) : Except ConfigFault ConfigLayer := do
  return { kube := some (← kubeLayer host), cache := some (← cacheLayer host)
           auth := some (← authLayer host), logging := some (← loggingLayer host) }

end ClusterAccess.Environment
