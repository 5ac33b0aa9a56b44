import ClusterAccess.Credential.KubeconfigFile
import ClusterAccess.Fault
import ClusterAccess.Text.Number
import ClusterAccess.Text.Pem
import ClusterAccess.Wire.Ipv6
import ClusterAccess.Wire.Uri

/-!
The service's own credential: from the cluster that the service runs in, or else from a
kubeconfig. A named kubeconfig is the only place that is looked at.
-/

namespace ClusterAccess

structure CredentialOptions where
  kubeconfig : Option String := none
  context : Option String := none
  preferInCluster : Bool := true
  deriving DecidableEq

open Text in
def CredentialOptions.inspect (o : CredentialOptions) : String :=
  record "CredentialOptions" [("kubeconfig", optional quote o.kubeconfig),
    ("context", optional quote o.context), ("prefer_in_cluster", truth o.preferInCluster)]

inductive CredentialOrigin where
  | inCluster
  | kubeconfig
  deriving DecidableEq

def CredentialOrigin.text : CredentialOrigin → String
  | inCluster => "in-cluster"
  | kubeconfig => "kubeconfig"

/-- What is known of a cluster, and as whom the service is known there. -/
structure AmbientCredential where
  origin : CredentialOrigin
  server : Uri
  defaultNamespace : String
  proxy : Option Uri := none
  /-- The certificates of the cluster's authority, if it names one. -/
  roots : Option (List (List UInt8)) := none
  serverName : Option String := none
  user : UserEntry := {}

inductive InClusterFault where
  | noVariable
  | variableNotText (bytes : List UInt8)
  | port (cause : Text.NumberFault)
  | address (cause : UriFault)
  | noNamespace (cause : FileFault)
  | noAuthority (cause : FileFault)
  | certificates (cause : Text.PemFault)
  deriving DecidableEq

def InClusterFault.message : InClusterFault → String
  | noVariable =>
    "failed to read an incluster environment variable: environment variable not found"
  | variableNotText bytes =>
    "failed to read an incluster environment variable: environment variable was not valid " ++
      "unicode: " ++ Text.quoteBytes bytes
  | port cause => "failed to parse cluster port: " ++ cause.message
  | address cause => "failed to parse cluster url: " ++ cause.message
  | noNamespace cause => "failed to read the default namespace: " ++ cause.message
  | noAuthority cause => "failed to read a certificate bundle: " ++ cause.message
  | certificates cause => "failed to parse PEM-encoded certificates: " ++ cause.message

inductive SelectionFault where
  | file (cause : KubeconfigFault)
  | noContext
  | unknownContext (name : String)
  | unknownCluster (name : String)
  | noServer
  | server (cause : UriFault)
  | authority
  | certificates (cause : Text.PemFault)
  | proxy (cause : UriFault)
  deriving DecidableEq

def SelectionFault.message : SelectionFault → String
  | file cause => cause.message
  | noContext => "failed to determine current context"
  | unknownContext name => "failed to load current context: " ++ name
  | unknownCluster name => "failed to load the cluster of context: " ++ name
  | noServer => "cluster url is missing on selected cluster"
  | server cause => "failed to parse cluster url: " ++ cause.message
  | authority => "failed to load certificate authority"
  | certificates cause => "failed to parse PEM-encoded certificates: " ++ cause.message
  | proxy cause => "failed to parse proxy url: " ++ cause.message

/-- Why there is no credential: what the cluster lacks, if it has been looked at, and what the
kubeconfig lacks. -/
structure CredentialFault where
  cluster : Option InClusterFault
  kubeconfig : SelectionFault

namespace CredentialFault

/-- The failure of the cluster is told only together with that of the kubeconfig. -/
def toFault (f : CredentialFault) : Fault :=
  let cluster := match f.cluster with
    | some cause => "no in-cluster credential (" ++ cause.message ++ ") and "
    | none => ""
  .configuration (cluster ++ "no usable kubeconfig (" ++ f.kubeconfig.message ++ ")")

/-- Whether the program breaks off there. -/
def isAbrupt (f : CredentialFault) : Bool := f.kubeconfig = .file .halfUnit

end CredentialFault

namespace AmbientCredential

def variableOf (host : Host) (name : String) : Except InClusterFault String :=
  match host.env name with
  | some bytes => match Text.Utf8.text? bytes with
    | some text => .ok text
    | none => .error (.variableNotText bytes)
  | none => .error .noVariable

/-- The address of a server, without the port where it is the usual one. -/
def serverText (host : String) (port : Nat) : String :=
  let name := if Ipv6.isAddress host.toList then "[" ++ host ++ "]" else host
  "https://" ++ name ++ (if port = 443 then "" else ":" ++ toString port)

def accountDirectory : String := "/var/run/secrets/kubernetes.io/serviceaccount"

def accountFile (name : String) : PathName := .ofText (accountDirectory ++ "/" ++ name)

def certificatesIn (bytes : List UInt8) : Except Text.PemFault (List (List UInt8)) := do
  return ((← Text.readPem bytes).filter (·.kind = "CERTIFICATE")).map (·.content)

def inCluster (host : Host) : Except InClusterFault AmbientCredential := do
  let name ← variableOf host "KUBERNETES_SERVICE_HOST"
  let port ← (Text.readNumber 65535 (← variableOf host "KUBERNETES_SERVICE_PORT")).mapError .port
  let server ← (Uri.read (serverText name port)).mapError .address
  let ns ← (host.readText (accountFile "namespace")).mapError .noNamespace
  let authority ← (host.readBytes (accountFile "ca.crt")).mapError .noAuthority
  let roots ← (certificatesIn authority).mapError .certificates
  return { origin := .inCluster, server, defaultNamespace := String.ofList ns, roots := some roots
           user := { tokenFile := some (accountDirectory ++ "/token") } }

/-- What an entry holds itself, in base 64, or else in a file that it names. -/
def loaded? (host : Host) (data file : Option String) : Option (List UInt8) :=
  match data, file with
  | some data, _ => (Text.Base64.decode (Text.Utf8.encode data.toList)).toOption
  | none, some file => (host.readBytes (.ofText file)).toOption
  | none, none => none

def authority (host : Host) (cluster : ClusterEntry) :
    Except SelectionFault (Option (List UInt8)) :=
  if cluster.authorityData.isNone && cluster.authorityFile.isNone then .ok none
  else match loaded? host cluster.authorityData cluster.authorityFile with
    | some bytes => .ok (some bytes)
    | none => .error .authority

def certificatesOf (host : Host) (cluster : ClusterEntry) :
    Except SelectionFault (Option (List (List UInt8))) := do
  (← authority host cluster).mapM fun bytes => (certificatesIn bytes).mapError .certificates

def proxyVariables : List String := ["HTTPS_PROXY", "https_proxy"]

def proxyText? (host : Host) (cluster : ClusterEntry) : Option String :=
  (cluster.proxy.filter (· ≠ "")).or (proxyVariables.findSome? host.nonEmpty?)

def readProxy (host : Host) (cluster : ClusterEntry) : Except SelectionFault (Option Uri) :=
  match proxyText? host cluster with
  | none => .ok none
  | some text => ((Uri.read text).map some).mapError .proxy

/-- The credential of one context, or of the current one. A context without a user is anonymous. -/
def select (host : Host) (config : Kubeconfig) (context : Option String) :
    Except SelectionFault AmbientCredential := do
  let name ← match context.or config.current with
    | some name => pure name
    | none => .error .noContext
  let context ← match Kubeconfig.entry? name config.contexts with
    | some context => pure context
    | none => .error (.unknownContext name)
  let cluster ← match Kubeconfig.entry? context.cluster config.clusters with
    | some cluster => pure cluster
    | none => .error (.unknownCluster context.cluster)
  let user := (context.user.bind fun name => Kubeconfig.entry? name config.users).getD {}
  if user.command.any (·.needsCluster) then let _ ← authority host cluster
  let server ← match cluster.server with
    | some text => (Uri.read text).mapError .server
    | none => .error .noServer
  let roots ← certificatesOf host cluster
  let proxy ← readProxy host cluster
  return { origin := .kubeconfig, server, proxy, roots, user, serverName := cluster.serverName
           defaultNamespace := context.ns.getD "default" }

def fromKubeconfig (host : Host) (options : CredentialOptions) :
    Except SelectionFault AmbientCredential := do
  let config ← match options.kubeconfig with
    | some path => (Kubeconfig.readFile host (.ofText path)).mapError .file
    | none => (Kubeconfig.readStandard host).mapError .file
  select host config options.context

def find (host : Host) (options : CredentialOptions) : Except CredentialFault AmbientCredential :=
  let other (cluster : Option InClusterFault) :=
    (fromKubeconfig host options).mapError (⟨cluster, ·⟩)
  if options.preferInCluster && options.kubeconfig.isNone then
    match inCluster host with
    | .ok credential => .ok credential
    | .error f => other (some f)
  else other none

def resolve (host : Host) (options : CredentialOptions) : Except Fault AmbientCredential :=
  (find host options).mapError (·.toFault)

end AmbientCredential

end ClusterAccess
