import ClusterAccess.Fault

/-!
Who a request is made by. The identity with the empty name stands for the service itself; every
other one is a user. A request carries its caller with it, and the token by which it can be
cancelled.
-/

namespace ClusterAccess

structure Identity where
  name : String
  deriving DecidableEq, Inhabited

namespace Identity

def ambient : Identity := ⟨""⟩

def isAmbient (id : Identity) : Bool := id.name == ""

def display (id : Identity) : String := if id.isAmbient then "<ambient>" else id.name

/-- The identities in the order of their names' bytes, equal ones in the order given. -/
def sort (ids : List Identity) : List Identity :=
  ids.mergeSort fun a b => !decide (b.name < a.name)

end Identity

inductive Attribution where
  | caller
  | service
  deriving DecidableEq

structure CancellationToken where
  number : Nat
  deriving DecidableEq

structure RequestContext where
  identity : Identity
  token : CancellationToken
  deriving DecidableEq

namespace RequestContext

def identityFor (ctx : RequestContext) : Attribution → Identity
  | .caller => ctx.identity
  | .service => .ambient

end RequestContext

def ensureActive (cancelled : Bool) : Except Fault Unit :=
  if cancelled then .error .cancelled else .ok ()

end ClusterAccess
