import ClusterAccess.Credential.Kubeconfig
import ClusterAccess.Host
import ClusterAccess.Text.Base64
import ClusterAccess.Text.Escape
import ClusterAccess.Text.Timestamp

/-!
What a user proves itself with: the token of a provider, a password, a token of its own, or one from
a file or a command, in this order. No command is ever run: those that can be found have not been
permitted.
-/

namespace ClusterAccess

inductive CommandFault where
  | missing
  | notDirectory
  | nameTooLong
  | notPermitted
  | nullInName
  deriving DecidableEq

namespace CommandFault

def code : CommandFault → Nat
  | missing => 2
  | notPermitted => 13
  | notDirectory => 20
  | nameTooLong => 36
  | nullInName => 0

def kind : CommandFault → String
  | missing => "NotFound"
  | notPermitted => "PermissionDenied"
  | notDirectory => "NotADirectory"
  | nameTooLong => "InvalidFilename"
  | nullInName => "InvalidInput"

def text : CommandFault → String
  | missing => "No such file or directory"
  | notPermitted => "Permission denied"
  | notDirectory => "Not a directory"
  | nameTooLong => "File name too long"
  | nullInName => "nul byte found in provided data"

def message (f : CommandFault) : String :=
  if f = nullInName then f.text else f.text ++ " (os error " ++ toString f.code ++ ")"

open Text in
def inspect (f : CommandFault) : String :=
  if f = nullInName then record "Error" [("kind", f.kind), ("message", quote f.text)]
  else record "Os" [("code", toString f.code), ("kind", f.kind), ("message", quote f.text)]

def nameLimit : Nat := 255

/-- Why a host does not run a command with certain other texts. A command without a slash would be
looked for elsewhere. -/
def ofCommand (host : Host) (command : String) (others : List String) : CommandFault :=
  if (command :: others).any (·.toList.contains '\x00') then nullInName
  else if !command.toList.contains '/' then
    if nameLimit < command.utf8ByteSize then nameTooLong else missing
  else match host.file (.ofText command) with
    | .error .missing => missing
    | .error .notDirectory => notDirectory
    | .error .nameTooLong => nameTooLong
    | _ => notPermitted

end CommandFault

inductive AuthFault where
  | noIdToken
  | retired
  | unknownProvider (name : String)
  | expiry (cause : Text.TimestampFault)
  | providerCommand (command : String) (cause : CommandFault)
  | noProviderToken
  | tokenFile (path : String) (cause : FileFault)
  | noCommand
  | ownCommand (cause : CommandFault)
  deriving DecidableEq

/-- Where to find what took the place of a provider that is no longer supported. -/
def replacement : String := "github.com/Azure/kubelogin"

def AuthFault.message : AuthFault → String
  | noIdToken => "failed exec auth: No id-token for oidc Authentication provider"
  | retired =>
    "failed exec auth: The azure auth plugin is not supported; use https://" ++ replacement ++
      " instead"
  | unknownProvider name =>
    "failed exec auth: Authentication with provider " ++ name ++ " not supported"
  | expiry cause => "malformed token expiration date: " ++ cause.message
  | providerCommand command cause =>
    "failed exec auth: Executing " ++ command ++ " failed: " ++ cause.inspect
  | noProviderToken =>
    "failed exec auth: Enable oauth feature to use Google Application Credentials-based token " ++
      "source"
  | tokenFile path cause =>
    "failed to read token file '" ++ Text.quote path ++ "': " ++ cause.message
  | noCommand => "command must be specified to use exec authentication plugin"
  | ownCommand cause => "unable to run auth exec: " ++ cause.message

/-- What a request is authorized with. A token may have to be renewed from time to time. -/
inductive Proof where
  | bearer (token : String)
  | renewed (token : String)
  | basic (name password : String)
  deriving DecidableEq

def Proof.text : Proof → String
  | bearer token | renewed token => "Bearer " ++ token
  | basic name password =>
    let pair := Text.Utf8.encode (name ++ ":" ++ password).toList
    "Basic " ++ String.ofList (Text.Base64.encode pair)

namespace AuthProvider

/-- How long before its end a token is no longer used, in seconds. -/
def margin : Int := 60

/-- The token that has been kept, unless it ends too soon. -/
def keptToken? (host : Host) (p : AuthProvider) : Except AuthFault (Option String) :=
  match p.setting? "access-token", p.setting? "expiry" with
  | some token, some expiry => do
    let moment ← (Text.readTimestamp expiry).mapError .expiry
    return if host.clock + margin < moment then some token else none
  | _, _ => .ok none

def words (text : String) : List String :=
  ((Text.trim text).toList.splitOn ' ').map String.ofList

def cloudProof (host : Host) (p : AuthProvider) : Except AuthFault Proof := do
  if let some token := p.setting? "id-token" then return .bearer token
  if let some token ← p.keptToken? host then return .renewed token
  match p.setting? "cmd-path" with
  | some command =>
    let arguments := words ((p.setting? "cmd-args").getD "")
    throw (.providerCommand command (.ofCommand host command arguments))
  | none => throw .noProviderToken

def proof (host : Host) (p : AuthProvider) : Except AuthFault Proof :=
  match p.name with
  | "oidc" => match p.setting? "id-token" with
    | some token => .ok (.bearer token)
    | none => .error .noIdToken
  | "gcp" => p.cloudProof host
  | "azure" => .error .retired
  | name => .error (.unknownProvider name)

end AuthProvider

namespace AuthCommand

/-- The variable in which a command is told what it runs for. -/
def ownVariable : String := "KUBERNETES_EXEC_INFO"

/-- What is handed to a command: its arguments, and its variables with the last value of each. -/
def texts (c : AuthCommand) : List String :=
  let names := (c.environment.map (·.1)).filter (· ≠ ownVariable)
  c.arguments ++ names ++ names.filterMap fun name => c.environment.reverse.lookup name

end AuthCommand

namespace UserEntry

/-- What a user that has no password and no provider proves itself with. -/
def ownProof (host : Host) (user : UserEntry) : Except AuthFault (Option Proof) :=
  match user.token, user.tokenFile, user.command with
  | some token, _, _ => .ok (some (.bearer token))
  | none, some path, _ => match host.readText (.ofText path) with
    | .ok token => .ok (some (.renewed (String.ofList token)))
    | .error cause => .error (.tokenFile path cause)
  | none, none, some command => match command.command with
    | some name => .error (.ownCommand (.ofCommand host name command.texts))
    | none => .error .noCommand
  | none, none, none => .ok none

def proof (host : Host) (user : UserEntry) : Except AuthFault (Option Proof) :=
  match user.provider, user.username, user.password with
  | some provider, _, _ => (provider.proof host).map some
  | none, some name, some password => .ok (some (.basic name password))
  | none, _, _ => user.ownProof host

end UserEntry

end ClusterAccess
