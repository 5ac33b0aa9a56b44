import ClusterAccess.Json.Reader
import ClusterAccess.Text.Escape
import ClusterAccess.Text.Utf8
import ClusterAccess.Wire.Request

/-!
What comes back for a request, and every way in which a call can fail. An answer with a code from
400 to 599 is an error. Its body may describe the error; then the code in the body counts.
-/

namespace ClusterAccess

structure HttpResponse where
  status : Nat
  body : List UInt8

def HttpResponse.isError (r : HttpResponse) : Bool := 400 ≤ r.status && r.status ≤ 599

structure ErrorAnswer where
  code : Nat
  reason : String
  message : String
  deriving DecidableEq

namespace ErrorAnswer

open Json (Document)

def once? (key : String) (fields : List (Option String × Document)) : Option (Option Document) :=
  match fields.filter (·.1 = some key) with
  | [] => some none
  | [(_, d)] => some (some d)
  | _ => none

def textOrEmpty? : Option Document → Option String
  | none => some ""
  | some d => d.text?

def code? : Document → Option Nat
  | .scalar (some (.int n)) => if 0 ≤ n ∧ n ≤ 65535 then some n.toNat else none
  | _ => none

/-- The error that a body describes: with its status, message, reason and code by name, or with
all four in this order. Other fields may hold anything. -/
def ofDocument? (d : Document) : Option ErrorAnswer := do
  let (status, message, reason, code) ← match d with
    | .object fields =>
      if fields.all (·.1.isSome) then
        some (← once? "status" fields, ← once? "message" fields, ← once? "reason" fields,
          ← once? "code" fields)
      else none
    | .array [status, message, reason, code] =>
      some (some status, some message, some reason, some code)
    | _ => none
  let _ ← (← status).text?
  return ⟨← code? (← code), ← textOrEmpty? reason, ← textOrEmpty? message⟩

def ofBody (status : Nat) (body : List Char) : ErrorAnswer :=
  ((Json.document? body).bind ofDocument?).getD
    ⟨status, "Failed to parse error data", Text.quote (String.ofList body)⟩

end ErrorAnswer

inductive CallFault where
  | request (cause : RequestFault)
  | answered (error : ErrorAnswer)
  | notText (cause : Text.Malformed)
  | notReadable (detail : String)
  | connection (message : String)
  | noEncryption
  deriving DecidableEq

namespace CallFault

/-- The fault of a call about an object of this kind and name. Without a name the answer's own
message takes its place. -/
def toFault (kind : String) (name : Option String) : CallFault → Fault
  | request cause => .invalidRequest cause.message
  | answered e =>
    if e.code = 404 then .notFound kind (name.getD e.message)
    else if e.code = 409 then .conflict kind (name.getD e.message)
    else .api e.code e.reason e.message
  | notText cause => .transport ("UTF-8 Error: " ++ cause.message)
  | notReadable detail => .transport ("Error deserializing response: " ++ detail)
  | connection m => .transport ("ServiceError: " ++ m)
  | noEncryption => .transport "TLS required but no TLS stack selected"

/-- The fault of a call that is about no object in particular. -/
def toAnonymousFault : CallFault → Fault := toFault "resource" none

end CallFault

def HttpResponse.text (r : HttpResponse) : Except CallFault (List Char) := do
  let body ← (Text.Utf8.decode r.body).mapError .notText
  if r.isError then .error (.answered (.ofBody r.status body)) else .ok body

def HttpResponse.json (r : HttpResponse) : Except CallFault Json := do
  match Json.read? (← r.text) with
  | some v => .ok v
  | none => .error (.notReadable "expected a JSON value")

end ClusterAccess
