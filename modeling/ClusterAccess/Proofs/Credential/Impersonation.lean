import ClusterAccess.Credential.Client
import ClusterAccess.Proofs.Resource.Reference

/-!
The headers in which a client says whom it acts for. A client that is made for a user names this
user and nothing else, whatever the credential would name. A client of the service itself names
exactly what the credential does.
-/

namespace ClusterAccess

/-! ### Headers -/

def HeaderName.impersonates (name : HeaderName) : Bool :=
  "impersonate-".toList.isPrefixOf name.text.toList

@[simp] theorem impersonates_user : HeaderName.impersonateUser.impersonates = true := by decide

@[simp] theorem impersonates_group : HeaderName.impersonateGroup.impersonates = true := by decide

@[simp] theorem impersonates_authorization : HeaderName.authorization.impersonates = false := by
  decide

@[simp] theorem impersonates_accept : HeaderName.accept.impersonates = false := by decide

@[simp] theorem impersonates_contentType : HeaderName.contentType.impersonates = false := by
  decide

/-- The headers that say for whom a request is made. -/
def Headers.impersonation (headers : Headers) : Headers := headers.filter (·.1.impersonates)

theorem Headers.impersonation_append (headers later : Headers) :
    Headers.impersonation (headers ++ later) = headers.impersonation ++ later.impersonation :=
  List.filter_append _ _

def UserEntry.impersonation (user : UserEntry) : Headers :=
  (user.impersonate.map fun name => (.impersonateUser, .ofText name)).toList ++
    user.groups.map fun group => (.impersonateGroup, .ofText group)

theorem UserEntry.impersonation_impersonation (user : UserEntry) :
    user.impersonation.impersonation = user.impersonation := by
  refine List.filter_eq_self.mpr fun header hheader => ?_
  rcases List.mem_append.mp hheader with hname | hgroup
  · obtain ⟨name, -, rfl⟩ := Option.map_eq_some_iff.mp (Option.mem_toList.mp hname)
    exact impersonates_user
  · obtain ⟨group, -, rfl⟩ := List.mem_map.mp hgroup
    exact impersonates_group

namespace ClusterClient

variable {host : Host} {c : AmbientCredential} {client : ClusterClient}

theorem eq_ofText_of_sendable {text : String} {value : HeaderValue}
    (h : sendable text = .ok value) : value = .ofText text := by
  unfold sendable HeaderValue.ofText? at h
  split at h
  next found hfound =>
    split at hfound
    next => rw [← Except.ok.inj h, ← Option.some.inj hfound]
    next => cases hfound
  next => cases h

theorem eq_map_of_mapM_option {text : Option String} {value : Option HeaderValue}
    (h : text.mapM sendable = .ok value) : value = text.map .ofText := by
  cases text with
  | none => exact (Except.ok.inj h).symm
  | some text =>
      obtain ⟨sent, hsent, hvalue⟩ := bind_eq_ok.mp h
      rw [← Except.ok.inj hvalue, eq_ofText_of_sendable hsent]
      rfl

theorem eq_map_of_mapM_list {texts : List String} {values : List HeaderValue}
    (h : texts.mapM sendable = .ok values) : values = texts.map .ofText := by
  induction texts generalizing values with
  | nil => exact (Except.ok.inj h).symm
  | cons text texts ih =>
      rw [List.mapM_cons] at h
      obtain ⟨first, hfirst, h⟩ := bind_eq_ok.mp h
      obtain ⟨later, hlater, hvalues⟩ := bind_eq_ok.mp h
      rw [← Except.ok.inj hvalues, eq_ofText_of_sendable hfirst, ih hlater]
      rfl

/-- A client is one of the credential's own server, with all headers of the credential. -/
theorem ofCredential_eq_ok (h : ofCredential host c = .ok client) :
    client.server = c.server ∧ client.headers.impersonation = c.user.impersonation := by
  unfold ofCredential at h
  obtain ⟨-, -, h⟩ := bind_eq_ok.mp h
  obtain ⟨proof, -, h⟩ := bind_eq_ok.mp h
  split at h
  next => cases h
  next =>
    obtain ⟨-, -, h⟩ := bind_eq_ok.mp h
    obtain ⟨-, -, h⟩ := bind_eq_ok.mp h
    obtain ⟨user, huser, h⟩ := bind_eq_ok.mp h
    obtain ⟨groups, hgroups, h⟩ := bind_eq_ok.mp h
    obtain rfl := Except.ok.inj h
    refine ⟨rfl, ?_⟩
    have hproof : Headers.impersonation
        (proof.map fun p => (HeaderName.authorization, HeaderValue.ofText p.text)).toList = [] := by
      cases proof <;> simp [Headers.impersonation]
    have huser : (user.map fun value => (HeaderName.impersonateUser, value)).toList ++
        groups.map (fun value => (HeaderName.impersonateGroup, value)) = c.user.impersonation := by
      rw [eq_map_of_mapM_option huser, eq_map_of_mapM_list hgroups, Option.map_map, List.map_map]
      rfl
    rw [List.append_assoc, huser, Headers.impersonation_append, hproof, List.nil_append,
      UserEntry.impersonation_impersonation]

end ClusterClient

namespace AmbientCredential

variable {host : Host} {c acting : AmbientCredential} {id : Identity}

theorem actingFor_eq_ok (h : c.actingFor id = .ok acting) :
    acting.server = c.server ∧ acting.user.impersonation =
      if id.isAmbient then c.user.impersonation else [(.impersonateUser, .ofText id.name)] := by
  unfold actingFor at h
  split at h
  next hid =>
    obtain rfl := Except.ok.inj h
    rw [if_pos hid]
    exact ⟨rfl, rfl⟩
  next hid =>
    split at h
    next =>
      obtain rfl := Except.ok.inj h
      rw [if_neg hid]
      exact ⟨rfl, rfl⟩
    next => cases h

/-- A client acts for the identity that it was asked for. Its requests go to the credential's
server, and name this identity or, if it is the service, whom the credential names. -/
theorem client_eq_ok {client : Client ClusterClient} (h : c.client host id = .ok client) :
    client.identity = id ∧ client.handle.server = c.server ∧
      client.handle.headers.impersonation =
        if id.isAmbient then c.user.impersonation else [(.impersonateUser, .ofText id.name)] := by
  unfold AmbientCredential.client at h
  split at h
  next handle hhandle =>
    obtain rfl := Except.ok.inj h
    obtain ⟨acting, hacting, hhandle⟩ := bind_eq_ok.mp hhandle
    obtain ⟨hserver, himpersonation⟩ := actingFor_eq_ok hacting
    obtain ⟨hserver', himpersonation'⟩ := ClusterClient.ofCredential_eq_ok hhandle
    exact ⟨rfl, hserver'.trans hserver, himpersonation'.trans himpersonation⟩
  next => cases h

end AmbientCredential

end ClusterAccess
