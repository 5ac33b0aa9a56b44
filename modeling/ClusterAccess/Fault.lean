import ClusterAccess.Text.Escape

/-!
Every way in which a request can fail, who is to blame for it, and its two written forms: the
message for people and the record with all its fields.
-/

namespace ClusterAccess

inductive Fault where
  | configuration (message : String)
  | forbidden (identity verb resource : String) (inNamespace : Option String) (reason : String)
  | unauthenticated (message : String)
  | notFound (kind name : String)
  | conflict (kind name : String)
  | api (code : Nat) (reason message : String)
  | clientConstruction (identity message : String)
  | invalidRequest (message : String)
  | cancelled
  | transport (message : String)
  deriving DecidableEq, Inhabited

inductive Blame where
  | configuration
  | authorization
  | remote
  | clientConstruction
  | request
  deriving DecidableEq

namespace Fault

def blame : Fault → Blame
  | configuration _ => .configuration
  | forbidden .. => .authorization
  | notFound .. | conflict .. | api .. | transport _ => .remote
  | clientConstruction .. => .clientConstruction
  | unauthenticated _ | invalidRequest _ | cancelled => .request

/-- The code that the control plane answered with, if the fault came from its answer. -/
def statusCode : Fault → Option Nat
  | notFound .. => some 404
  | conflict .. => some 409
  | api code .. => some code
  | _ => none

def namespaceSuffix : Option String → String
  | none => ""
  | some ns => " in namespace '" ++ ns ++ "'"

def message : Fault → String
  | configuration m => "K8s configuration error: " ++ m
  | forbidden identity verb resource ns reason =>
    "User '" ++ identity ++ "' is not authorized to " ++ verb ++ " " ++ resource ++
      namespaceSuffix ns ++ ": " ++ reason
  | unauthenticated m => "Unauthenticated: " ++ m
  | notFound kind name => kind ++ " not found: " ++ name
  | conflict kind name => kind ++ " already exists or was modified: " ++ name
  | api code reason m => "K8s API error (" ++ toString code ++ " " ++ reason ++ "): " ++ m
  | clientConstruction identity m => "Failed to build client for '" ++ identity ++ "': " ++ m
  | invalidRequest m => "Invalid request: " ++ m
  | cancelled => "Request cancelled"
  | transport m => "K8s transport error: " ++ m

open Text in
def inspect : Fault → String
  | configuration m => record "Configuration" [("message", quote m)]
  | forbidden identity verb resource ns reason =>
    record "Forbidden" [("identity", quote identity), ("verb", quote verb),
      ("resource", quote resource), ("namespace", optional quote ns), ("reason", quote reason)]
  | unauthenticated m => record "Unauthenticated" [("message", quote m)]
  | notFound kind name => record "NotFound" [("kind", quote kind), ("name", quote name)]
  | conflict kind name => record "Conflict" [("kind", quote kind), ("name", quote name)]
  | api code reason m =>
    record "Api" [("code", toString code), ("reason", quote reason), ("message", quote m)]
  | clientConstruction identity m =>
    record "ClientConstruction" [("identity", quote identity), ("message", quote m)]
  | invalidRequest m => record "InvalidRequest" [("message", quote m)]
  | cancelled => "Cancelled"
  | transport m => record "Transport" [("message", quote m)]

end Fault

end ClusterAccess
