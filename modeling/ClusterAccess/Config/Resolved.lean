import ClusterAccess.Config.Fault
import ClusterAccess.Config.Layer

/-!
A configuration in which every setting has its value, and the rules it must keep.
-/

namespace ClusterAccess

structure KubeConfig where
  kubeconfig : Option String
  context : Option String
  preferInCluster : Bool
  deriving DecidableEq

structure CacheConfig where
  core : Nat
  storage : Nat
  customObjects : Nat
  deriving DecidableEq

structure AuthConfig where
  userHeader : String
  userPrefix : String
  disableAuth : Bool
  gateMode : GateMode
  deriving DecidableEq

structure LoggingConfig where
  level : String
  format : LogFormat
  deriving DecidableEq

structure Config where
  kube : KubeConfig
  cache : CacheConfig
  auth : AuthConfig
  logging : LoggingConfig
  deriving DecidableEq

def KubeLayer.resolve (l : KubeLayer) : KubeConfig :=
  ⟨l.kubeconfig, l.context, l.preferInCluster.getD true⟩

def defaultCapacity : Nat := 100

def CacheLayer.resolve (l : CacheLayer) : CacheConfig :=
  ⟨l.core.getD defaultCapacity, l.storage.getD defaultCapacity,
    l.customObjects.getD defaultCapacity⟩

def AuthLayer.resolve (l : AuthLayer) : AuthConfig :=
  ⟨l.userHeader.getD "kubeflow-userid", l.userPrefix.getD "", l.disableAuth.getD false,
    l.gateMode.getD .selective⟩

def LoggingLayer.resolve (l : LoggingLayer) : LoggingConfig :=
  ⟨l.level.getD "info,kube_client=warn", l.format.getD .text⟩

/-- Every setting with its value, the standard one where the layer has none. -/
def ConfigLayer.resolve (l : ConfigLayer) : Config :=
  ⟨(l.kube.getD {}).resolve, (l.cache.getD {}).resolve, (l.auth.getD {}).resolve,
    (l.logging.getD {}).resolve⟩

def CacheConfig.validate (c : CacheConfig) : Except Violation Unit :=
  if c.core = 0 then .error (.noCapacity "cache.core_capacity")
  else if c.storage = 0 then .error (.noCapacity "cache.storage_capacity")
  else if c.customObjects = 0 then .error (.noCapacity "cache.custom_objects_capacity")
  else .ok ()

def AuthConfig.validate (c : AuthConfig) : Except Violation Unit :=
  if Text.trim c.userHeader = "" ∧ c.disableAuth = false then .error .blankUserHeader
  else if c.disableAuth ∧ c.gateMode = .strict then .error .strictWithoutAuth
  else .ok ()

def Config.validate (c : Config) : Except Violation Unit := do
  c.cache.validate
  c.auth.validate

end ClusterAccess
