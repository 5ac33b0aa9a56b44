import ClusterAccess.Config.Resolved
import ClusterAccess.Identity
import ClusterAccess.Wire.Header

/-!
The caller's identity from the header that an authenticating proxy sets. The user's name may
follow a fixed text there. Without authentication every request is the service's own.
-/

namespace ClusterAccess

structure HeaderIdentitySource where
  header : HeaderName
  lead : String
  authDisabled : Bool

namespace HeaderIdentitySource

def ofSetting (header lead : String) (authDisabled : Bool) :
    Except Fault HeaderIdentitySource :=
  match HeaderName.ofText? header with
  | some name => .ok ⟨name, lead, authDisabled⟩
  | none => .error (.configuration
      ("invalid user id header '" ++ header ++ "': invalid HTTP header name"))

def userOf (source : HeaderIdentitySource) (text : String) : String :=
  Text.trim (Text.withoutLeading source.lead text)

def identity (source : HeaderIdentitySource) (headers : Headers) : Except Fault Identity :=
  if source.authDisabled then .ok .ambient
  else
    let header := "header '" ++ source.header.text ++ "'"
    match headers.first? source.header with
    | none => .error (.unauthenticated ("no user credentials found in " ++ header))
    | some value => match value.visible? with
      | none => .error (.unauthenticated (header ++ " is not valid UTF-8"))
      | some text =>
        let user := source.userOf text
        if user = "" then .error (.unauthenticated (header ++ " carries an empty user"))
        else .ok ⟨user⟩

/-- The headers with which the proxy would present a user. -/
def presenting (source : HeaderIdentitySource) (user : String) : Except Fault Headers :=
  match HeaderValue.ofText? (source.lead ++ user) with
  | some value => .ok [(source.header, value)]
  | none => .error (.unauthenticated
      ("identity '" ++ user ++ "' cannot be sent as a header: " ++ HeaderValue.notSendable))

end HeaderIdentitySource

def AuthConfig.identitySource (auth : AuthConfig) : Except Fault HeaderIdentitySource :=
  HeaderIdentitySource.ofSetting auth.userHeader auth.userPrefix auth.disableAuth

/-- The context of a request that is made for a user, or for nobody, as if the proxy had sent
it. -/
def RequestContext.forUser (auth : AuthConfig) (user : Option String) (token : CancellationToken) :
    Except Fault RequestContext := do
  let source ← auth.identitySource
  let headers ← match user with
    | some name => source.presenting name
    | none => pure []
  return ⟨← source.identity headers, token⟩

end ClusterAccess
