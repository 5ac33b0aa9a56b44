import ClusterAccess.Proofs.Request.HeaderIdentity
import ClusterAccess.Proofs.Resource.Reference

/-!
Whom a request is made for that names its user itself. The name travels in the header in which a
proxy would present it, behind the fixed text, and comes out of it as it was given, up to the white
space around it. Without a name, or with one that no header can carry, there is no request.
-/

namespace ClusterAccess

/-- The option presents a user: in its header its value can be read, and there is more to the value
than white space. -/
def AuthConfig.Presents (auth : AuthConfig) (actAs : Option String) (user : String) : Prop :=
  ∃ given, actAs = some given ∧
    (HeaderValue.ofText (auth.userPrefix ++ given)).all HeaderValue.isVisibleByte = true ∧
    user = Text.trim given ∧ user ≠ ""

theorem AuthConfig.Presents.ne_empty {auth : AuthConfig} {actAs : Option String} {user : String}
    (h : auth.Presents actAs user) : user ≠ "" := by
  obtain ⟨given, -, -, -, hne⟩ := h
  exact hne

namespace HeaderIdentitySource

variable {source : HeaderIdentitySource} {given : String} {headers : Headers} {id : Identity}

theorem presenting_eq_ok (h : source.presenting given = .ok headers) :
    headers = [(source.header, .ofText (source.lead ++ given))] := by
  unfold presenting HeaderValue.ofText? at h
  split at h
  next value hvalue =>
    split at hvalue
    next => rw [← Except.ok.inj h, ← Option.some.inj hvalue]
    next => cases hvalue
  next => cases h

/-- The user of a header that is read back is the text behind the lead, without white space. -/
theorem identity_eq_ok (hauth : source.authDisabled = false)
    (h : source.identity [(source.header, .ofText (source.lead ++ given))] = .ok id) :
    (HeaderValue.ofText (source.lead ++ given)).all HeaderValue.isVisibleByte = true ∧
      id.name = Text.trim given ∧ id.name ≠ "" := by
  have hfirst : Headers.first? [(source.header, .ofText (source.lead ++ given))] source.header =
      some (.ofText (source.lead ++ given)) := by simp [Headers.first?]
  obtain ⟨value, hvalue, hnames⟩ := (source.identity_eq_ok_iff hauth).mp h
  obtain rfl := Option.some.inj (hfirst.symm.trans hvalue)
  obtain ⟨hvisible, huser, hne⟩ := NamesUser.ofText_iff.mp hnames
  rw [Text.withoutLeading_append] at huser
  exact ⟨HeaderValue.all_isVisibleByte_iff.mpr hvisible, huser.symm, hne⟩

theorem identity_nil (source : HeaderIdentitySource) (hauth : source.authDisabled = false) :
    source.identity [] ≠ .ok id := by
  simp [identity, hauth, Headers.first?]

end HeaderIdentitySource

theorem AuthConfig.identitySource_eq_ok {auth : AuthConfig} {source : HeaderIdentitySource}
    (h : auth.identitySource = .ok source) :
    source.lead = auth.userPrefix ∧ source.authDisabled = auth.disableAuth := by
  unfold AuthConfig.identitySource HeaderIdentitySource.ofSetting at h
  split at h
  next =>
    obtain rfl := Except.ok.inj h
    exact ⟨rfl, rfl⟩
  next => cases h

/-- A request is made for the user that the option presents. -/
theorem RequestContext.forUser_eq_ok {auth : AuthConfig} {actAs : Option String}
    {token : CancellationToken} {ctx : RequestContext} (hauth : auth.disableAuth = false)
    (h : RequestContext.forUser auth actAs token = .ok ctx) :
    auth.Presents actAs ctx.identity.name := by
  obtain ⟨source, hsource, h⟩ := bind_eq_ok.mp h
  have hfields := AuthConfig.identitySource_eq_ok hsource
  have hdisabled : source.authDisabled = false := hfields.2.trans hauth
  cases actAs with
  | none =>
      obtain ⟨headers, hheaders, h⟩ := bind_eq_ok.mp h
      obtain rfl := Except.ok.inj hheaders
      obtain ⟨id, hid, -⟩ := bind_eq_ok.mp h
      exact absurd hid (source.identity_nil hdisabled)
  | some given =>
      obtain ⟨headers, hheaders, h⟩ := bind_eq_ok.mp h
      obtain rfl := HeaderIdentitySource.presenting_eq_ok hheaders
      obtain ⟨id, hid, hctx⟩ := bind_eq_ok.mp h
      obtain rfl := Except.ok.inj hctx
      obtain ⟨hvisible, huser⟩ := HeaderIdentitySource.identity_eq_ok hdisabled hid
      rw [hfields.1] at hvisible
      exact ⟨given, rfl, hvisible, huser⟩

/-- Nobody is presented without a value, by one that is blank, or by one that cannot be sent. -/
theorem AuthConfig.not_presents {auth : AuthConfig} {actAs : Option String} {user : String}
    (h : ∀ given, actAs = some given →
      Text.trim given = "" ∨ HeaderValue.ofText? given = none) : ¬ auth.Presents actAs user := by
  rintro ⟨given, hgiven, hvisible, rfl, hblank⟩
  rcases h given hgiven with hempty | hsend
  · exact hblank hempty
  · have hgiven : ∀ b ∈ HeaderValue.ofText given, IsVisible b := by
      rw [HeaderValue.ofText, String.toList_append, Text.Utf8.encode_append, List.all_append,
        Bool.and_eq_true] at hvisible
      exact HeaderValue.all_isVisibleByte_iff.mp hvisible.2
    rw [HeaderValue.ofText?_of_isVisible hgiven] at hsend
    cases hsend

end ClusterAccess
