import ClusterAccess.Access.Check
import ClusterAccess.Identity
import ClusterAccess.Json.Shape
import ClusterAccess.Wire.Response

/-!
Access reviews: the question as an object that is sent to the control plane, and the answer in
the object that comes back.
-/

namespace ClusterAccess.AccessReview

open Json (Shape)

def presentFields (fields : List (String × Option String)) : List (String × Json) :=
  fields.filterMap fun (key, value) => value.map fun text => (key, .str text)

/-- The object that asks whether somebody may do what the check says. -/
def body (asker : Identity) (check : AccessCheck) : Json :=
  .ofFields [("apiVersion", .str ResourceKind.accessReviews.apiVersion),
    ("kind", .str ResourceKind.accessReviews.kind),
    ("metadata", .obj []),
    ("spec", .ofFields [
      ("resourceAttributes", .ofFields (presentFields [
        ("verb", some check.verb), ("group", some check.group), ("version", some check.version),
        ("resource", some check.resource), ("subresource", check.subresource),
        ("namespace", check.ns), ("name", check.name)])),
      ("user", .str asker.name)])]

def request (asker : Identity) (check : AccessCheck) : Except RequestFault HttpRequest :=
  creation (ResourceRef.collectionPath ⟨.accessReviews, none, none⟩) [] (body asker check)

def requirementsShape : Shape :=
  .optionals [("rawSelector", .text), ("requirements", .list (.optionals
    [("key", .text), ("operator", .text), ("values", .list .text)]))]

def specShape : Shape :=
  .optionals [
    ("extra", .table (.list .text)), ("groups", .list .text),
    ("nonResourceAttributes", .optionals [("path", .text), ("verb", .text)]),
    ("resourceAttributes", .optionals [
      ("fieldSelector", requirementsShape), ("group", .text),
      ("labelSelector", requirementsShape), ("name", .text), ("namespace", .text),
      ("resource", .text), ("subresource", .text), ("verb", .text), ("version", .text)]),
    ("uid", .text), ("user", .text)]

def statusShape : Shape :=
  .optionals [("allowed", .flag), ("denied", .flag), ("evaluationError", .text),
    ("reason", .text)]

def metadataShape : Shape :=
  .optionals [
    ("annotations", .table .text), ("creationTimestamp", .instant),
    ("deletionGracePeriodSeconds", .integer), ("deletionTimestamp", .instant),
    ("finalizers", .list .text), ("generateName", .text), ("generation", .integer),
    ("labels", .table .text),
    ("managedFields", .list (.optionals [
      ("apiVersion", .text), ("fieldsType", .text), ("fieldsV1", .anything), ("manager", .text),
      ("operation", .text), ("subresource", .text), ("time", .instant)])),
    ("name", .text), ("namespace", .text),
    ("ownerReferences", .list (.optionals [
      ("apiVersion", .text), ("blockOwnerDeletion", .flag), ("controller", .flag),
      ("kind", .text), ("name", .text), ("uid", .text)])),
    ("resourceVersion", .text), ("selfLink", .text), ("uid", .text)]

def shape : Shape :=
  .record [] [
    ("apiVersion", .exactly ResourceKind.accessReviews.apiVersion),
    ("kind", .exactly ResourceKind.accessReviews.kind),
    ("metadata", .optional metadataShape), ("spec", .optional specShape),
    ("status", .optional statusShape)]

/-- Whether a review allows what was asked. One without a status does not. -/
def isAllowed (review : Json.Document) : Bool :=
  match (review.field? "status").bind (·.field? "allowed") with
  | some (.scalar (some (.bool allowed))) => allowed
  | _ => false

def readAnswer (text : List Char) : Except CallFault Bool :=
  match Json.document? text with
  | some review =>
    if shape.fits review then .ok (isAllowed review)
    else .error (.notReadable "expected an access review")
  | none => .error (.notReadable "expected a JSON value")

end ClusterAccess.AccessReview
