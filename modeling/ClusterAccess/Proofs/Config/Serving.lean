import ClusterAccess.Proofs.Config.Layering
import ClusterAccess.Proofs.Request.Presented

/-!
Which of the configurations that load can be served. The setting of the user's header is only
looked at for being blank when a configuration is loaded, and not at all without authentication,
while every request needs it to be the name of a header. So requests are served under exactly those
configurations in which it is one; under the others all of them are refused.
-/

namespace ClusterAccess

/-- The text can be the name of a header: between one and 65535 letters, digits and marks. -/
structure NamesHeader (text : String) : Prop where
  ne_empty : text ≠ ""
  length_le : text.length ≤ 65535
  token : ∀ ch ∈ text.toList, isTokenChar ch = true

theorem HeaderName.exists_ofText?_iff {text : String} :
    (∃ name, HeaderName.ofText? text = some name) ↔ NamesHeader text := by
  have hchars : text.toList ≠ [] ↔ text ≠ "" := not_congr String.toList_eq_nil_iff
  dsimp only [HeaderName.ofText?]
  split
  next hname =>
    obtain ⟨hne, hlength, htoken⟩ := hname
    rw [String.length_toList] at hlength
    have hnames : NamesHeader text := ⟨hchars.mp hne, hlength, List.all_eq_true.mp htoken⟩
    exact ⟨fun _ => hnames, fun _ => ⟨_, rfl⟩⟩
  next hname =>
    refine ⟨fun ⟨_, h⟩ => (by cases h), fun ⟨hne, hlength, htoken⟩ => ?_⟩
    rw [← String.length_toList] at hlength
    exact absurd ⟨hchars.mpr hne, hlength, List.all_eq_true.mpr htoken⟩ hname

namespace AuthConfig

variable {auth : AuthConfig}

theorem exists_identitySource_iff :
    (∃ source, auth.identitySource = .ok source) ↔ NamesHeader auth.userHeader := by
  rw [← HeaderName.exists_ofText?_iff]
  unfold identitySource HeaderIdentitySource.ofSetting
  cases HeaderName.ofText? auth.userHeader <;> simp

/-- A setting that names no header is told as what is wrong with the configuration. -/
theorem exists_configuration_of_not_namesHeader (h : ¬ NamesHeader auth.userHeader) :
    ∃ message, auth.identitySource = .error (.configuration message) := by
  rw [← HeaderName.exists_ofText?_iff] at h
  unfold identitySource HeaderIdentitySource.ofSetting
  cases hname : HeaderName.ofText? auth.userHeader with
  | some name => exact absurd ⟨name, hname⟩ h
  | none => exact ⟨_, rfl⟩

end AuthConfig

theorem HeaderIdentitySource.identity_ne_configuration (source : HeaderIdentitySource)
    (headers : Headers) (message : String) :
    source.identity headers ≠ .error (.configuration message) := by
  intro h
  obtain ⟨_, heq⟩ := source.unauthenticated_of_identity h
  cases heq

theorem HeaderIdentitySource.presenting_ne_configuration (source : HeaderIdentitySource)
    (user message : String) : source.presenting user ≠ .error (.configuration message) := by
  intro h
  obtain ⟨_, heq⟩ := source.unauthenticated_of_presenting h
  cases heq

namespace RequestContext

variable {auth : AuthConfig} {token : CancellationToken}

/-- A request is refused for the configuration exactly if it is not known which header to read. -/
theorem exists_configuration_iff (user : Option String) :
    (∃ message, forUser auth user token = .error (.configuration message)) ↔
      ¬ NamesHeader auth.userHeader := by
  constructor
  · rintro ⟨message, h⟩ hname
    obtain ⟨source, hsource⟩ := AuthConfig.exists_identitySource_iff.mpr hname
    rw [forUser, hsource] at h
    have hcontext (headers : Headers) : (do
        let id ← source.identity headers
        return (⟨id, token⟩ : RequestContext)) ≠ .error (.configuration message) := by
      intro h
      rcases bind_eq_error.mp h with hidentity | ⟨id, -, hreturn⟩
      · exact source.identity_ne_configuration headers message hidentity
      · cases hreturn
    cases user with
    | none => exact hcontext [] h
    | some user =>
        obtain ⟨_, hsource', h⟩ := (bind_eq_error.mp h).resolve_left (by simp)
        obtain rfl := Except.ok.inj hsource'
        rcases bind_eq_error.mp h with hheaders | ⟨headers, -, h⟩
        · exact source.presenting_ne_configuration user message hheaders
        · exact hcontext headers h
  · intro hname
    obtain ⟨message, hsource⟩ := AuthConfig.exists_configuration_of_not_namesHeader hname
    exact ⟨message, by rw [forUser, hsource]; rfl⟩

/-- Without authentication a request by nobody is the service's own. -/
theorem forUser_none_of_disabled (hname : NamesHeader auth.userHeader)
    (hdisabled : auth.disableAuth = true) : forUser auth none token = .ok ⟨.ambient, token⟩ := by
  obtain ⟨source, hsource⟩ := AuthConfig.exists_identitySource_iff.mpr hname
  have hauth : source.authDisabled = true :=
    (AuthConfig.identitySource_eq_ok hsource).2.trans hdisabled
  have hidentity : source.identity [] = .ok .ambient := by
    simp [HeaderIdentitySource.identity, hauth]
  simp [forUser, hsource, hidentity, bind, Except.bind, pure, Except.pure]

end RequestContext

namespace Config

def headerOf (host : Host) (sources : List ConfigSource) : String :=
  (lastSet? host sources .userHeader).getD "kubeflow-userid"

theorem userHeader_of_ofSources {host : Host} {sources : List ConfigSource} {config : Config}
    (h : ofSources host sources = .ok config) :
    config.auth.userHeader = headerOf host sources := by
  have hvalue := value?_of_ofSources h .userHeader
  rw [headerOf]
  cases hset : lastSet? host sources .userHeader with
  | none =>
      rw [hset] at hvalue
      exact Option.some.inj hvalue
  | some text =>
      rw [hset] at hvalue
      exact Option.some.inj hvalue

/-- A configuration that loads is served exactly if the text that was set last for the header can
be the name of one, as it is where none was set. Then a request by nobody is the service's own if
authentication is disabled; otherwise every request is refused for the configuration. -/
theorem served_exactly_with_header_name {host : Host} {sources : List ConfigSource}
    {config : Config} (h : ofSources host sources = .ok config) :
    ((∃ source, config.auth.identitySource = .ok source) ↔ NamesHeader (headerOf host sources)) ∧
    (∀ user token, (∃ message, RequestContext.forUser config.auth user token =
      .error (.configuration message)) ↔ ¬ NamesHeader (headerOf host sources)) ∧
    (NamesHeader (headerOf host sources) → config.auth.disableAuth = true → ∀ token,
      RequestContext.forUser config.auth none token = .ok ⟨.ambient, token⟩) ∧
    (lastSet? host sources .userHeader = none → NamesHeader (headerOf host sources)) := by
  have hheader := userHeader_of_ofSources h
  rw [← hheader]
  refine ⟨AuthConfig.exists_identitySource_iff,
    fun user token => RequestContext.exists_configuration_iff user,
    fun hname hdisabled token => RequestContext.forUser_none_of_disabled hname hdisabled,
    fun hunset => ?_⟩
  have hstandard : NamesHeader "kubeflow-userid" :=
    ⟨by decide, by decide, List.all_eq_true.mp (by decide)⟩
  rw [hheader, headerOf, hunset]
  exact hstandard

def openSources : List ConfigSource :=
  [.fixed .configFile { auth := some { userHeader := some "X-User" } },
    .fixed .environment { auth := some { disableAuth := some true } }]

theorem nobody_is_served_as_service :
    ∃ config, ofSources bareHost openSources = .ok config ∧ config.auth.disableAuth = true ∧
      RequestContext.forUser config.auth none ⟨0⟩ = .ok ⟨.ambient, ⟨0⟩⟩ := by
  have hload : ofSources bareHost openSources = .ok { ConfigLayer.resolve {} with
      auth := ⟨"X-User", "", true, .selective⟩ } := by
    refine ofSources_eq_ok _ rfl ⟨by decide, by decide, by decide, .inr rfl, by decide⟩
      fun s => ?_
    cases s <;> rfl
  obtain ⟨-, -, hservice, -⟩ := served_exactly_with_header_name hload
  have hname : NamesHeader "X-User" := ⟨by decide, by decide, List.all_eq_true.mp (by decide)⟩
  exact ⟨_, hload, rfl, hservice hname rfl ⟨0⟩⟩

def withAuth (auth : AuthLayer) : List ConfigSource := [.fixed .environment { auth := some auth }]

/-- A blank header loads where authentication is disabled, and one with a blank in it loads where it
is not. Under neither of them anybody is served. -/
theorem loaded_without_header_name :
    (∃ config, ofSources bareHost (withAuth { userHeader := some "", disableAuth := some true }) =
        .ok config ∧ config.auth.disableAuth = true ∧
      RequestContext.forUser config.auth none ⟨0⟩ =
        .error (.configuration "invalid user id header '': invalid HTTP header name")) ∧
    ∃ config, ofSources bareHost (withAuth { userHeader := some "bad header" }) = .ok config ∧
      config.auth.disableAuth = false ∧
      RequestContext.forUser config.auth (some "alice") ⟨0⟩ = .error
        (.configuration "invalid user id header 'bad header': invalid HTTP header name") := by
  constructor
  · refine ⟨{ ConfigLayer.resolve {} with auth := ⟨"", "", true, .selective⟩ },
      ofSources_eq_ok _ rfl ⟨by decide, by decide, by decide, .inr rfl, by decide⟩ fun s => ?_,
      rfl, rfl⟩
    cases s <;> rfl
  · refine ⟨{ ConfigLayer.resolve {} with auth := ⟨"bad header", "", false, .selective⟩ },
      ofSources_eq_ok _ rfl ⟨by decide, by decide, by decide, .inl ⟨'b', by decide, by decide⟩,
        by decide⟩ fun s => ?_, rfl, rfl⟩
    cases s <;> rfl

end Config

end ClusterAccess
