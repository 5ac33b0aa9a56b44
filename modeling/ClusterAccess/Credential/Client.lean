import ClusterAccess.Client.Cache
import ClusterAccess.Credential.Ambient
import ClusterAccess.Credential.Authentication
import ClusterAccess.Credential.Encryption
import ClusterAccess.Wire.ControlPlane

/-!
Clients of a cluster. Every client authenticates as the service; a client for a user also says on
each request whom it acts for, and in no group of the service's own.
-/

namespace ClusterAccess

inductive ClientFault where
  | proxyNeeds (proxy : Uri) (feature : String)
  | proxyUnsupported (proxy : Uri)
  | authentication (cause : AuthFault)
  | token
  | encryption (cause : EncryptionFault)
  | header
  | identity
  deriving DecidableEq

def ClientFault.message : ClientFault → String
  | proxyNeeds proxy feature =>
    "configured proxy " ++ proxy.display ++ " requires the disabled feature " ++ Text.quote feature
  | proxyUnsupported proxy =>
    "configured proxy " ++ proxy.display ++ " uses an unsupported protocol"
  | authentication cause => "auth error: " ++ cause.message
  | token => "token is not valid header: InvalidHeaderValue"
  | encryption cause => "rustls tls error: " ++ cause.message
  | header => "HttpError: " ++ HeaderValue.notSendable
  | identity =>
    "identity is not a valid impersonation header value: " ++ HeaderValue.notSendable

inductive Obstacle where
  | bareAuthority
  | token
  | relativeServer
  deriving DecidableEq

def Obstacle.message : Obstacle → String
  | bareAuthority => "buffer's worker closed unexpectedly"
  | token => "invalid bearer token: " ++ HeaderValue.notSendable
  | relativeServer => "client error (UserAbsoluteUriRequired)"

structure ClusterClient where
  server : Uri
  defaultNamespace : String
  headers : Headers
  obstacle : Option Obstacle := none

namespace ClusterClient

def checkProxy : Option Uri → Except ClientFault Unit
  | none => .ok ()
  | some proxy => match proxy.scheme with
    | some "socks5" => .error (.proxyNeeds proxy "kube/socks5")
    | some "http" => .error (.proxyNeeds proxy "kube/http-proxy")
    | _ => .error (.proxyUnsupported proxy)

def identification? (host : Host) (user : UserEntry) : Option (List UInt8) := do
  let closed (bytes : List UInt8) : List UInt8 :=
    if bytes.getLast?.all (· = 10) then bytes else bytes ++ [10]
  let certificate ← AmbientCredential.loaded? host user.certificateData user.certificateFile
  let key ← AmbientCredential.loaded? host user.keyData user.keyFile
  return closed key ++ closed certificate

def sendable (s : String) : Except ClientFault HeaderValue :=
  match HeaderValue.ofText? s with
  | some value => .ok value
  | none => .error .header

def isSendable (proof : Proof) : Bool := (HeaderValue.ofText? proof.text).isSome

/-- What stands in the way of requests to a server. No path can follow an authority that has no
scheme. -/
def obstacle? (server : Uri) (proof : Option Proof) : Option Obstacle :=
  if server.scheme.isNone && server.authority.isSome then some .bareAuthority
  else if proof.any (!isSendable ·) then some .token
  else if server.scheme.isNone then some .relativeServer
  else none

/-- Whether a proof is a token that stays as it is and cannot be sent. -/
def isBrokenToken : Proof → Bool
  | .bearer token => !isSendable (.bearer token)
  | .renewed _ | .basic .. => false

/-- The client of a credential. A token that must be renewed may become one that can be sent. -/
def ofCredential (host : Host) (c : AmbientCredential) : Except ClientFault ClusterClient := do
  checkProxy c.proxy
  let proof ← (c.user.proof host).mapError .authentication
  if proof.any isBrokenToken then throw .token
  (checkEncryption host c.roots (identification? host c.user) c.serverName).mapError .encryption
  let user ← c.user.impersonate.mapM sendable
  let groups ← c.user.groups.mapM sendable
  let headers :=
    (proof.map fun p => (HeaderName.authorization, HeaderValue.ofText p.text)).toList ++
      (user.map fun value => (HeaderName.impersonateUser, value)).toList ++
      groups.map fun value => (HeaderName.impersonateGroup, value)
  return ⟨c.server, c.defaultNamespace, headers, obstacle? c.server proof⟩

def withoutTrailingSlashes (path : String) : String :=
  String.ofList (path.toList.reverse.dropWhile (· = '/')).reverse

/-- The request as it goes to the server: below the server's own path and with the client's
headers. -/
def address (client : ClusterClient) (r : HttpRequest) : HttpRequest :=
  let path := withoutTrailingSlashes client.server.target.path ++ r.target.path
  { r with target := { r.target with path }, headers := r.headers ++ client.headers }

def transport {m : Type → Type} [Monad m] (client : ClusterClient) (send : Transport m) :
    Transport m := fun r =>
  match client.obstacle with
  | some obstacle => return .error obstacle.message
  | none => send (client.address r)

end ClusterClient

namespace AmbientCredential

/-- The credential with which the service acts for an identity. -/
def actingFor (c : AmbientCredential) (id : Identity) : Except ClientFault AmbientCredential :=
  if id.isAmbient then .ok c
  else match HeaderValue.ofText? id.name with
    | some _ => .ok { c with user := { c.user with impersonate := some id.name, groups := [] } }
    | none => .error .identity

/-- Whether the program breaks off where it makes a client of the credential. -/
def isBroken (host : Host) (c : AmbientCredential) : Bool :=
  match ClusterClient.ofCredential host c with
  | .error .token => true
  | _ => false

def client (host : Host) (c : AmbientCredential) (id : Identity) :
    Except Fault (Client ClusterClient) :=
  match (c.actingFor id).bind (ClusterClient.ofCredential host) with
  | .ok handle => .ok ⟨id, handle⟩
  | .error f => .error (.clientConstruction id.display f.message)

end AmbientCredential

end ClusterAccess
