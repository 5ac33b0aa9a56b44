import ClusterAccess.Config.Wiring
import ClusterAccess.Credential.Client
import ClusterAccess.Request.Accessor

/-!
The service: a credential, a gate whose questions are asked as the service itself, and caches of
clients for those who call.
-/

namespace ClusterAccess

structure Service where
  host : Host
  credential : AmbientCredential
  reviewer : ClusterClient
  gate : AuthorizationGate
  capacities : CacheCapacities

namespace Service

def assemble (host : Host) (config : Config) (credential : AmbientCredential) :
    Except Fault Service := do
  let client ← credential.client host .ambient
  return ⟨host, credential, client.handle, config.auth.gate, config.cache.capacities⟩

def registry (s : Service) : ClientRegistry ClusterClient := .empty s.capacities

/-- Those that the requests of the service act on, behind a transport. -/
def collaborators {σ : Type} (s : Service) (send : Transport (StateM σ))
    (cancelled : σ → CancellationToken → Bool) : Collaborators σ ClusterClient :=
  { cancelled
    review := Transport.review (s.reviewer.transport send)
    factory := ClientCache.detached fun _ id => pure (s.credential.client s.host id)
    perform := fun client call => Transport.perform (client.handle.transport send) call }

end Service

end ClusterAccess
