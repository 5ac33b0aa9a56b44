import ClusterAccess.Access.Check
import ClusterAccess.Identity
import ClusterAccess.Text.Blank

/-!
The gate asks a reviewer before it lets a request through. A request without a user never
passes and is never asked about, unless authentication is switched off, when everything passes
unasked. The gate keeps nothing between two questions.
-/

namespace ClusterAccess

/-- Which requests the gate stands before: only those always gated, or all. -/
inductive GateMode where
  | selective
  | strict
  deriving DecidableEq

namespace GateMode

def text : GateMode → String
  | selective => "selective"
  | strict => "strict"

def inspect : GateMode → String
  | selective => "Selective"
  | strict => "Strict"

def ofText? (s : String) : Option GateMode :=
  let word := Text.lowerAscii s
  if word = "selective" then some selective
  else if word = "strict" then some strict
  else none

def read (s : String) : Except Fault GateMode :=
  match ofText? s with
  | some mode => .ok mode
  | none => .error (.configuration
      ("unknown gate mode '" ++ Text.lowerAscii s ++ "', expected selective or strict"))

end GateMode

inductive Decision where
  | allow
  | deny (reason : String)
  deriving DecidableEq

namespace Decision

def isAllowed : Decision → Bool
  | allow => true
  | deny _ => false

def noIdentity : String := "no user identity on the request"

/-- A failed review denies. -/
def ofReview : Except Fault Bool → Decision
  | .ok true => allow
  | .ok false => deny "denied by access review"
  | .error f => deny ("access review failed: " ++ f.message)

def toResult (id : Identity) (check : AccessCheck) : Decision → Except Fault Unit
  | allow => .ok ()
  | deny reason =>
    .error (.forbidden id.display check.verb check.resourceLabel check.ns reason)

end Decision

abbrev Reviewer (m : Type → Type) := Identity → AccessCheck → m (Except Fault Bool)

structure AuthorizationGate where
  mode : GateMode
  authDisabled : Bool := false
  deriving DecidableEq

namespace AuthorizationGate

variable {m : Type → Type} [Monad m]

/-- The reviewer's own answer, failures included. -/
def canI (gate : AuthorizationGate) (review : Reviewer m) : Reviewer m := fun id check =>
  if gate.authDisabled then pure (.ok true)
  else if id.isAmbient then pure (.error (.unauthenticated Decision.noIdentity))
  else review id check

def decide (gate : AuthorizationGate) (review : Reviewer m) (id : Identity) (check : AccessCheck) :
    m Decision :=
  if !gate.authDisabled && id.isAmbient then pure (.deny Decision.noIdentity)
  else Decision.ofReview <$> gate.canI review id check

def authorize (gate : AuthorizationGate) (review : Reviewer m) (id : Identity)
    (check : AccessCheck) : m (Except Fault Unit) :=
  Decision.toResult id check <$> gate.decide review id check

/-- Lets everything through unless the gate stands before all requests. -/
def authorizeIfStrict (gate : AuthorizationGate) (review : Reviewer m) (id : Identity)
    (check : AccessCheck) : m (Except Fault Unit) :=
  match gate.mode with
  | .selective => pure (.ok ())
  | .strict => gate.authorize review id check

def inspect (gate : AuthorizationGate) : String :=
  Text.partialRecord "AuthorizationGate"
    [("mode", gate.mode.inspect), ("disable_auth", Text.truth gate.authDisabled)]

end AuthorizationGate

end ClusterAccess
