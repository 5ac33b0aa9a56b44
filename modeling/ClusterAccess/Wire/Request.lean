import ClusterAccess.Json.Writer
import ClusterAccess.Resource.Operation
import ClusterAccess.Text.Utf8
import ClusterAccess.Wire.Header
import ClusterAccess.Wire.Uri

/-!
The request that an operation sends. Names are put into the path as they are, so an address that
they make impossible is refused; options stand in the query, form-encoded, or in the body.
-/

namespace ClusterAccess

inductive Method where
  | get
  | post
  | patch
  | delete
  deriving DecidableEq

def Method.text : Method → String
  | get => "GET"
  | post => "POST"
  | patch => "PATCH"
  | delete => "DELETE"

namespace HeaderName

def accept : HeaderName := ⟨"accept"⟩
def authorization : HeaderName := ⟨"authorization"⟩
def contentType : HeaderName := ⟨"content-type"⟩
def impersonateGroup : HeaderName := ⟨"impersonate-group"⟩
def impersonateUser : HeaderName := ⟨"impersonate-user"⟩

end HeaderName

structure HttpRequest where
  method : Method
  target : RequestTarget
  headers : Headers := []
  body : String := ""
  deriving DecidableEq

inductive RequestFault where
  | reference (cause : ReferenceFault)
  | invalid (message : String)
  | address (cause : UriFault)
  deriving DecidableEq

namespace RequestFault

def emptyName : RequestFault := invalid "A non-empty name is required"

def message : RequestFault → String
  | reference cause => cause.message
  | invalid m => "failed to validate request: " ++ m
  | address cause => "failed to build request: " ++ cause.message

end RequestFault

def queryText (parameters : List (String × Option String)) : String :=
  String.join (parameters.map fun (key, value) => match value with
    | some text => "&" ++ key ++ "=" ++ Text.Form.encode text
    | none => "")

def addressed (url : String) : Except RequestFault RequestTarget :=
  if Uri.lengthLimit < url.utf8ByteSize then .error (.address .tooLong)
  else (RequestTarget.ofChars url.toList).mapError .address

def PatchStrategy.contentType : PatchStrategy → String
  | merge => "application/merge-patch+json"
  | strategicMerge => "application/strategic-merge-patch+json"

def jsonType : HeaderValue := HeaderValue.ofText "application/json"

/-- The name of the one object that is got or changed. -/
def ResourceRef.pathName (r : ResourceRef) : Except RequestFault String := do
  let name ← (r.requireName).mapError .reference
  if name = "" then .error .emptyName else .ok name

def creation (collection : String) (parameters : List (String × Option String)) (body : Json) :
    Except RequestFault HttpRequest := do
  return { method := .post, target := ← addressed (collection ++ "?" ++ queryText parameters)
           headers := [(.contentType, jsonType)], body := body.compact }

def ClusterCall.request (call : ClusterCall) : Except RequestFault HttpRequest := do
  let collection := call.target.collectionPath
  match call.operation with
  | .get =>
    let name ← call.target.pathName
    return { method := .get, target := ← addressed (collection ++ "/" ++ name) }
  | .list s =>
    let query := queryText [("fieldSelector", s.fields), ("labelSelector", s.labels)]
    return { method := .get, target := ← addressed (collection ++ "?" ++ query) }
  | .create body dryRun =>
    creation collection [("dryRun", if dryRun then some "All" else none)] body
  | .delete propagation =>
    let name ← call.target.pathName
    let options := Json.obj [("propagationPolicy", .str propagation.text)]
    return { method := .delete, target := ← addressed (collection ++ "/" ++ name ++ "?")
             headers := [(.contentType, jsonType)], body := options.compact }
  | .patch body strategy =>
    let name ← call.target.pathName
    return { method := .patch, target := ← addressed (collection ++ "/" ++ name ++ "?")
             headers := [(.accept, jsonType),
               (.contentType, HeaderValue.ofText strategy.contentType)]
             body := body.compact }
  | .logs container =>
    let name ← (call.target.requireName).mapError .reference
    let query := queryText [("container", container)]
    return { method := .get, target := ← addressed (collection ++ "/" ++ name ++ "/log?" ++ query) }

end ClusterAccess
