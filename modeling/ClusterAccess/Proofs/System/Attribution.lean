import ClusterAccess.Proofs.System.Sending
import ClusterAccess.Proofs.Wire.Review

/-!
Whom the requests of a service are made for. It asks about a user in its own name, so that the
request says what its credential would have any request say, and it does a user's calls in the name
of this user alone.
-/

namespace ClusterAccess

namespace HttpRequest

structure IsBelow (r : HttpRequest) (server : Uri) (bare : HttpRequest) : Prop where
  method : r.method = bare.method
  path : r.target.path =
    ClusterClient.withoutTrailingSlashes server.target.path ++ bare.target.path
  query : r.target.query = bare.target.query
  body : r.body = bare.body

/-- The request asks the server of a credential about a user, and is made for whom the credential
itself names. -/
structure AsksAbout (r : HttpRequest) (credential : AmbientCredential) (user : String) : Prop where
  method : r.method = .post
  path : r.target.path =
    ClusterClient.withoutTrailingSlashes credential.server.target.path ++ AccessReview.path
  user : r.reviewed? = some (.str user)
  impersonation : r.headers.impersonation = credential.user.impersonation

/-- The request is that of a call to the server of a credential, and is made for this user only. -/
structure CarriesOut (r : HttpRequest) (credential : AmbientCredential) (call : ClusterCall)
    (user : String) : Prop where
  call : ∃ bare, call.request = .ok bare ∧ r.IsBelow credential.server bare
  impersonation : r.headers.impersonation = [(.impersonateUser, .ofText user)]

theorem IsBelow.reviewed?_eq {r bare : HttpRequest} {server : Uri} (h : r.IsBelow server bare) :
    r.reviewed? = bare.reviewed? := by
  unfold reviewed? body?
  rw [h.body]

end HttpRequest

namespace ClusterClient

variable {client : ClusterClient} {request : Except RequestFault HttpRequest} {r : HttpRequest}

theorem isBelow_address (client : ClusterClient) (r : HttpRequest) :
    (client.address r).IsBelow client.server r := by
  unfold address
  exact ⟨rfl, rfl, rfl, rfl⟩

theorem impersonation_address (client : ClusterClient) (r : HttpRequest) :
    (client.address r).headers.impersonation =
      r.headers.impersonation ++ client.headers.impersonation :=
  Headers.impersonation_append _ _

theorem sent?_eq_some (h : client.sent? request = some r) :
    ∃ bare, request = .ok bare ∧ r = client.address bare := by
  unfold sent? at h
  split at h
  next bare _ => exact ⟨bare, rfl, (Option.some.inj h).symm⟩
  next => cases h

end ClusterClient

namespace Service

variable {host : Host} {config : Config} {credential : AmbientCredential} {service : Service}
  {r : HttpRequest}

theorem assemble_eq_ok (h : assemble host config credential = .ok service) :
    service.host = host ∧ service.credential = credential ∧
      ∃ client, credential.client host .ambient = .ok client ∧
        service.reviewer = client.handle := by
  obtain ⟨client, hclient, hservice⟩ := bind_eq_ok.mp h
  obtain rfl := Except.ok.inj hservice
  exact ⟨rfl, rfl, client, hclient, rfl⟩

theorem asksAbout_of_sent {asker : Identity} {check : AccessCheck}
    (h : assemble host config credential = .ok service)
    (hr : service.sent? (.question asker check) = some r) : r.AsksAbout credential asker.name := by
  obtain ⟨-, -, client, hclient, hreviewer⟩ := assemble_eq_ok h
  obtain ⟨-, hserver, himpersonation⟩ := AmbientCredential.client_eq_ok hclient
  rw [sent?, hreviewer] at hr
  obtain ⟨bare, hbare, rfl⟩ := ClusterClient.sent?_eq_some hr
  have hbelow := client.handle.isBelow_address bare
  have hreviewed := AccessReview.reviewed?_of_request hbare
  rw [AccessReview.request_eq] at hbare
  obtain rfl := Except.ok.inj hbare
  constructor
  case method => rw [hbelow.method]
  case path => rw [hbelow.path, hserver]
  case user => rw [hbelow.reviewed?_eq, hreviewed]
  case impersonation =>
    rw [ClusterClient.impersonation_address, himpersonation]
    simp [Headers.impersonation, Identity.isAmbient, Identity.ambient]

theorem carriesOut_of_sent {sender : Identity} {call : ClusterCall}
    (h : assemble host config credential = .ok service) (hsender : sender.name ≠ "")
    (hr : service.sent? (.call sender call) = some r) :
    r.CarriesOut credential call sender.name := by
  obtain ⟨hhost, hcredential, -⟩ := assemble_eq_ok h
  rw [sent?, hhost, hcredential] at hr
  split at hr
  next client hclient =>
    obtain ⟨-, hserver, himpersonation⟩ := AmbientCredential.client_eq_ok hclient
    obtain ⟨bare, hbare, rfl⟩ := ClusterClient.sent?_eq_some hr
    have hbelow := client.handle.isBelow_address bare
    rw [hserver] at hbelow
    refine ⟨⟨bare, hbare, hbelow⟩, ?_⟩
    rw [ClusterClient.impersonation_address, call.impersonation_of_request hbare, himpersonation]
    simp [Identity.isAmbient, hsender]
  next => cases hr

end Service

end ClusterAccess
