import ClusterAccess.Proofs.Credential.Impersonation
import ClusterAccess.Proofs.Json.Fields
import ClusterAccess.Proofs.Wire.Encoding

/-!
The request of an access review. Whoever and whatever it is about, there is one, always at the same
address, and whom it asks about can be read in its body. Neither it nor the request of any call says
by itself for whom it is made. That is left to the client that sends it.
-/

namespace ClusterAccess

namespace AccessReview

def path : String := "/apis/authorization.k8s.io/v1/subjectaccessreviews"

theorem request_eq (asker : Identity) (check : AccessCheck) :
    request asker check = .ok
      { method := .post, target := ⟨path, some ""⟩, headers := [(.contentType, jsonType)]
        body := (body asker check).compact } := by
  have haddressed : addressed (ResourceRef.collectionPath ⟨.accessReviews, none, none⟩ ++ "?" ++
      queryText []) = .ok ⟨path, some ""⟩ := by decide
  rw [request, creation, haddressed]
  rfl

theorem fieldsAreReadable_presentFields (room : Nat) (fields : List (String × Option String)) :
    Json.fieldsAreReadable room (presentFields fields) = true := by
  induction fields with
  | nil => rfl
  | cons field rest ih =>
      obtain ⟨key, value⟩ := field
      cases value <;> simpa [presentFields, Json.fieldsAreReadable, Json.isReadable] using ih

theorem isReadable_body (asker : Identity) (check : AccessCheck) :
    (body asker check).isReadable Json.depthLimit = true := by
  unfold body
  -- The body, its specification and the attributes in it are the only objects, one in the other.
  generalize hattributes : presentFields _ = attributes
  have hattributes : (Json.ofFields attributes).isReadable (124 + 1) = true :=
    Json.isReadable_ofFields (hattributes ▸ fieldsAreReadable_presentFields 124 _)
  have hspec : (Json.ofFields [("resourceAttributes", Json.ofFields attributes),
      ("user", .str asker.name)]).isReadable (125 + 1) = true :=
    Json.isReadable_ofFields (by simp [Json.fieldsAreReadable, hattributes, Json.isReadable])
  have hbody : Json.depthLimit = 126 + 1 := rfl
  rw [hbody]
  exact Json.isReadable_ofFields (by simp [Json.fieldsAreReadable, hspec, Json.isReadable])

end AccessReview

/-- Whom the body of a review asks about. -/
def HttpRequest.reviewed? (r : HttpRequest) : Option Json := do
  (← (← r.body?).field? "spec").field? "user"

theorem AccessReview.field?_body (asker : Identity) (check : AccessCheck) :
    ((body asker check).field? "spec").bind (·.field? "user") = some (.str asker.name) := by
  simp [body, Json.field?, Json.ofFields, Json.sortFields, Json.lookup_putField]

theorem AccessReview.reviewed?_of_request {asker : Identity} {check : AccessCheck}
    {r : HttpRequest} (h : request asker check = .ok r) :
    r.reviewed? = some (.str asker.name) := by
  rw [request_eq] at h
  obtain rfl := Except.ok.inj h
  have hbody := Json.parse?_compact (isReadable_body asker check)
  simp only [HttpRequest.reviewed?, HttpRequest.body?, hbody]
  exact field?_body asker check

/-! ### Headers -/

theorem impersonation_of_creation {collection : String} {parameters : List (String × Option String)}
    {body : Json} {r : HttpRequest} (h : creation collection parameters body = .ok r) :
    r.headers.impersonation = [] := by
  obtain ⟨target, -, h⟩ := bind_eq_ok.mp h
  obtain rfl := Except.ok.inj h
  simp [Headers.impersonation]

theorem ClusterCall.impersonation_of_request {call : ClusterCall} {r : HttpRequest}
    (h : call.request = .ok r) : r.headers.impersonation = [] := by
  obtain ⟨target, operation⟩ := call
  cases operation with
  | create body dryRun => exact impersonation_of_creation h
  | list selectors =>
      obtain ⟨target, -, h⟩ := bind_eq_ok.mp h
      obtain rfl := Except.ok.inj h
      rfl
  | patch body strategy =>
      obtain ⟨name, -, h⟩ := bind_eq_ok.mp h
      obtain ⟨target, -, h⟩ := bind_eq_ok.mp h
      obtain rfl := Except.ok.inj h
      simp [Headers.impersonation]
  | _ =>
      obtain ⟨name, -, h⟩ := bind_eq_ok.mp h
      obtain ⟨target, -, h⟩ := bind_eq_ok.mp h
      obtain rfl := Except.ok.inj h
      simp [Headers.impersonation]

end ClusterAccess
