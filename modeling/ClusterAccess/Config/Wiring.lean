import ClusterAccess.Client.Registry
import ClusterAccess.Config.Source
import ClusterAccess.Credential.Ambient

/-!
From sources to a configuration, and from a configuration to the parts of the service. Layers of a
higher precedence lie over those of a lower one, and sources of the same precedence keep their
order.
-/

namespace ClusterAccess

namespace Config

def mergedLayer (host : Host) (sources : List ConfigSource) : Except ConfigFault ConfigLayer :=
  let ordered := sources.mergeSort fun a b => a.precedence.level ≤ b.precedence.level
  ordered.foldlM (fun lower source => do return lower.merge (← source.load host)) {}

/-- The configuration that the sources give, if it keeps the rules. -/
def ofSources (host : Host) (sources : List ConfigSource) : Except ConfigFault Config := do
  let config := (← mergedLayer host sources).resolve
  (config.validate).mapError .violation
  return config

def systemFile : PathName := .ofText "/etc/crud-backend/config.toml"

def ofFile (host : Host) (path : PathName) : Except ConfigFault Config :=
  ofSources host [.defaults, .file path, .environment]

def ofSystem (host : Host) : Except ConfigFault Config := ofFile host systemFile

def ofEnvironment (host : Host) : Except ConfigFault Config :=
  ofSources host [.environment]

end Config

def KubeConfig.credentialOptions (c : KubeConfig) : CredentialOptions :=
  ⟨c.kubeconfig, c.context, c.preferInCluster⟩

def CacheConfig.capacities (c : CacheConfig) : CacheCapacities :=
  ⟨c.core, c.storage, c.customObjects⟩

def AuthConfig.gate (c : AuthConfig) : AuthorizationGate := ⟨c.gateMode, c.disableAuth⟩

end ClusterAccess
