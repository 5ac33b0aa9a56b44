import ClusterAccess.Access.Gate
import ClusterAccess.Wire.Review

/-!
The control plane at the other end of a connection. Each call is at most one request.
-/

namespace ClusterAccess

/-- Sends a request. Where nothing comes back it says why. -/
abbrev Transport (m : Type → Type) := HttpRequest → m (Except String HttpResponse)

namespace Transport

variable {m : Type → Type} [Monad m] {α : Type}

def exchange (send : Transport m) (request : Except RequestFault HttpRequest)
    (read : HttpResponse → Except CallFault α) : m (Except CallFault α) :=
  match request with
  | .error cause => pure (.error (.request cause))
  | .ok r => do
    match ← send r with
    | .error message => return .error (.connection message)
    | .ok response => return read response

/-- What an operation gets of an answer: logs are plain text, all else is JSON. -/
def payload (operation : Operation) (r : HttpResponse) : Except CallFault Json :=
  match operation with
  | .logs _ => (r.text).map fun cs => .str (String.ofList cs)
  | _ => r.json

def perform (send : Transport m) (call : ClusterCall) : m (Except Fault Json) := do
  let answer ← exchange send call.request (payload call.operation)
  return answer.mapError (·.toFault call.target.kind.kind call.target.name)

def review (send : Transport m) : Reviewer m := fun asker check => do
  let answer ← exchange send (AccessReview.request asker check) fun r => do
    AccessReview.readAnswer (← r.text)
  return answer.mapError (·.toAnonymousFault)

end Transport

/-- The record of a control plane that is used as an identity. -/
def controlPlaneRecord (id : Identity) : String :=
  Text.partialRecord "KubeControlPlane" [("identity", Text.wrapped "Identity" (Text.quote id.name))]

def reviewerRecord : String := Text.partialRecord "SubjectAccessReviewer" []

end ClusterAccess
