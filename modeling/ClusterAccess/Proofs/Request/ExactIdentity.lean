import ClusterAccess.Credential.Client
import ClusterAccess.Proofs.Config.Serving

/-!
Callers under a setting that names a header. Whoever is named is a user and not the service, and the
service can act for every such user. Requests that name their user themselves come to the user that
they name, with the leading text in the name or without.
-/

namespace ClusterAccess

open Text

/-- The service can act for whoever is named, as that user and without groups. -/
theorem NamesUser.actingFor_eq {lead user : String} {value : HeaderValue}
    (h : NamesUser lead value user) (c : AmbientCredential) :
    c.actingFor ⟨user⟩ =
      .ok { c with user := { c.user with impersonate := some user, groups := [] } } := by
  have huser : Identity.isAmbient ⟨user⟩ = false := beq_eq_false_iff_ne.mpr h.ne_empty
  simp only [AmbientCredential.actingFor, huser, Bool.false_eq_true, if_false, h.isSendable]

namespace RequestContext

variable {auth : AuthConfig} {given user : String} {token : CancellationToken} {f : Fault}

theorem forUser_of_namesUser (hname : NamesHeader auth.userHeader)
    (hauth : auth.disableAuth = false)
    (h : NamesUser auth.userPrefix (.ofText (auth.userPrefix ++ given)) user) :
    forUser auth (some given) token = .ok ⟨⟨user⟩, token⟩ := by
  obtain ⟨source, hsource⟩ := AuthConfig.exists_identitySource_iff.mpr hname
  obtain ⟨hlead, hdisabled⟩ := AuthConfig.identitySource_eq_ok hsource
  rw [← hlead] at h
  have hheaders : source.presenting given =
      .ok [(source.header, .ofText (source.lead ++ given))] := by
    rw [HeaderIdentitySource.presenting, HeaderValue.ofText?_of_isVisible h.visible]
  have hid : source.identity [(source.header, .ofText (source.lead ++ given))] = .ok ⟨user⟩ :=
    (HeaderIdentitySource.identity_eq_ok_iff (hdisabled.trans hauth)).mpr
      ⟨_, by simp [Headers.first?], h⟩
  exact bind_eq_ok.mpr ⟨source, hsource, bind_eq_ok.mpr ⟨_, hheaders, bind_eq_ok.mpr ⟨_, hid, rfl⟩⟩⟩

theorem unauthenticated_of_forUser (hname : NamesHeader auth.userHeader)
    (h : forUser auth (some given) token = .error f) : ∃ message, f = .unauthenticated message := by
  obtain ⟨source, hsource⟩ := AuthConfig.exists_identitySource_iff.mpr hname
  rw [forUser, hsource] at h
  obtain ⟨_, hsource', h⟩ := (bind_eq_error.mp h).resolve_left (by simp)
  obtain rfl := Except.ok.inj hsource'
  rcases bind_eq_error.mp h with hheaders | ⟨headers, -, h⟩
  · exact source.unauthenticated_of_presenting hheaders
  · rcases bind_eq_error.mp h with hid | ⟨id, -, hreturn⟩
    · exact source.unauthenticated_of_identity hid
    · cases hreturn

end RequestContext

/-- With the name of a header requests are told apart by the first value under it and by nothing
else. The user whom it names has no white space at either end and can be acted for; whoever is not
named is unauthenticated, and without authentication everybody is the service. A request that names
its user itself is made for this user, without the white space around the name, if that is visible
with the leading text before it. What can be sent but not be read is refused like a blank name. -/
theorem header_identities_are_exact {auth : AuthConfig} (hname : NamesHeader auth.userHeader) :
    ∃ source, auth.identitySource = .ok source ∧
      (auth.disableAuth = true → ∀ headers, source.identity headers = .ok .ambient) ∧
      (auth.disableAuth = false →
        (∀ sent headers, Headers.ofSent? sent = some headers →
          (∀ user, source.identity headers = .ok ⟨user⟩ ↔
            ∃ value, sent.first? auth.userHeader = some value ∧
              NamesUser auth.userPrefix value user) ∧
          ∀ other later, Headers.ofSent? other = some later →
            other.first? auth.userHeader = sent.first? auth.userHeader →
            source.identity later = source.identity headers) ∧
        (∀ headers f, source.identity headers = .error f →
          ∃ message, f = .unauthenticated message) ∧
        (∀ headers id, source.identity headers = .ok id →
          id ≠ .ambient ∧ Tight id.name.toList ∧ ∀ c : AmbientCredential, c.actingFor id =
            .ok { c with user := { c.user with impersonate := some id.name, groups := [] } }) ∧
        ∀ given token,
          let readable := ∀ b ∈ HeaderValue.ofText (auth.userPrefix ++ given), IsVisible b
          (readable ∧ trim given ≠ "" →
            RequestContext.forUser auth (some given) token = .ok ⟨⟨trim given⟩, token⟩) ∧
          (¬ (readable ∧ trim given ≠ "") → ∃ message, RequestContext.forUser auth (some given)
            token = .error (.unauthenticated message))) := by
  obtain ⟨header, hheader⟩ := HeaderName.exists_ofText?_iff.mpr hname
  let source : HeaderIdentitySource := ⟨header, auth.userPrefix, auth.disableAuth⟩
  have hsource : auth.identitySource = .ok source := by
    rw [AuthConfig.identitySource, HeaderIdentitySource.ofSetting, hheader]
  refine ⟨source, hsource, source.identity_of_disabled, fun hauth => ⟨?_,
    fun headers f => source.unauthenticated_of_identity, ?_, ?_⟩⟩
  · intro sent headers hsent
    have hfirst := Headers.first?_of_ofSent? hheader hsent
    refine ⟨fun user => ?_, fun other later hother hsame => ?_⟩
    · rw [← hfirst]
      exact source.identity_eq_ok_iff hauth
    · refine source.identity_congr ?_
      show later.first? header = headers.first? header
      rw [Headers.first?_of_ofSent? hheader hother, hfirst, hsame]
  · intro headers id hid
    obtain ⟨value, -, hnames⟩ := (source.identity_eq_ok_iff hauth).mp hid
    refine ⟨?_, hnames.tight, hnames.actingFor_eq⟩
    rintro rfl
    exact hnames.ne_empty rfl
  · intro given token readable
    refine ⟨fun ⟨hreadable, hne⟩ => ?_, fun hnot => ?_⟩
    · refine RequestContext.forUser_of_namesUser hname hauth (NamesUser.ofText_iff.mpr ?_)
      exact ⟨hreadable, by rw [withoutLeading_append], hne⟩
    · cases hresult : RequestContext.forUser auth (some given) token with
      | error f =>
          obtain ⟨message, rfl⟩ := RequestContext.unauthenticated_of_forUser hname hresult
          exact ⟨message, rfl⟩
      | ok ctx =>
          obtain ⟨_, hgiven, hvisible, huser, hne⟩ := RequestContext.forUser_eq_ok hauth hresult
          obtain rfl := Option.some.inj hgiven
          exact absurd ⟨HeaderValue.all_isVisibleByte_iff.mp hvisible, huser ▸ hne⟩ hnot

/-- The second of three headers names the user, and a name that begins with the leading text keeps
it. -/
theorem alice_is_named_first :
    let auth : AuthConfig := ⟨"kubeflow-userid", "accounts:", false, .selective⟩
    let sent : SentHeaders := [("X-User", .ofText "eve"),
      ("Kubeflow-UserID", .ofText "accounts: alice "), ("kubeflow-userid", .ofText "mallory")]
    ∃ source headers, auth.identitySource = .ok source ∧ Headers.ofSent? sent = some headers ∧
      source.identity headers = .ok ⟨"alice"⟩ ∧
      RequestContext.forUser auth (some "accounts:alice") ⟨0⟩ =
        .ok ⟨⟨"accounts:alice"⟩, ⟨0⟩⟩ := by
  intro auth sent
  have hname : NamesHeader auth.userHeader :=
    ⟨by decide, by decide, List.all_eq_true.mp (by decide)⟩
  obtain ⟨source, hsource, -, henabled⟩ := header_identities_are_exact hname
  obtain ⟨hids, -, -, hgiven⟩ := henabled rfl
  have hsent : Headers.ofSent? sent = some [(⟨"x-user"⟩, .ofText "eve"),
      (⟨"kubeflow-userid"⟩, .ofText "accounts: alice "),
      (⟨"kubeflow-userid"⟩, .ofText "mallory")] := by decide
  have hnames : NamesUser "accounts:" (.ofText "accounts: alice ") "alice" :=
    NamesUser.ofText_iff.mpr
      ⟨HeaderValue.all_isVisibleByte_iff.mp (by decide), by decide, by decide⟩
  exact ⟨source, _, hsource, hsent, ((hids sent _ hsent).1 "alice").mpr ⟨_, by decide, hnames⟩,
    (hgiven "accounts:alice" ⟨0⟩).1
      ⟨HeaderValue.all_isVisibleByte_iff.mp (by decide), by decide⟩⟩

/-- A name with an accent can be sent in a header, but it is not read there. -/
theorem accented_name_is_sent_and_not_read :
    let auth : AuthConfig := ⟨"kubeflow-userid", "", false, .selective⟩
    NamesHeader auth.userHeader ∧
      HeaderValue.ofText? (auth.userPrefix ++ "é") = some [0xC3, 0xA9] ∧ trim "é" = "é" ∧
      RequestContext.forUser auth (some "é") ⟨0⟩ =
        .error (.unauthenticated "header 'kubeflow-userid' is not valid UTF-8") :=
  ⟨⟨by decide, by decide, List.all_eq_true.mp (by decide)⟩, by decide, by decide, rfl⟩

end ClusterAccess
