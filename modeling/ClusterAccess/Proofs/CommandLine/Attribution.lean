import ClusterAccess.Proofs.CommandLine.Messages
import ClusterAccess.Proofs.Request.Presented
import ClusterAccess.Proofs.System.Attribution

/-!
Whom the requests of a run are made for. The user that the option presents is the one that the
reviewer is asked about, by the service itself, and the one that the resource is then asked for by,
whatever the credential would have requests say. No run sends more than these two requests, and
without such a user none is sent.
-/

namespace ClusterAccess.CommandLine

variable {σ : Type} {host : Host} {args : Arguments}

/-- What a run is prepared with: the service of the configuration around the credential, and the
request of the user that the option presents. -/
theorem prepare_eq_ok {service : Service} {ctx : RequestContext} {config : Config}
    {credential : AmbientCredential} (hconfig : args.loadConfig host = .ok config)
    (hcredential : AmbientCredential.find host config.kube.credentialOptions = .ok credential)
    (h : args.prepare host = .ok (service, ctx)) :
    Service.assemble host config credential = .ok service ∧
      RequestContext.forUser config.auth args.actAs ⟨0⟩ = .ok ctx := by
  obtain ⟨found, hfound, h⟩ := bind_eq_ok.mp h
  rw [hconfig] at hfound
  obtain rfl := Except.ok.inj hfound
  obtain ⟨found, hfound, h⟩ := bind_eq_ok.mp h
  rw [hcredential] at hfound
  obtain rfl := Except.ok.inj hfound
  split at h
  next => cases h
  next =>
    obtain ⟨made, hmade, h⟩ := bind_eq_ok.mp h
    obtain ⟨asked, hasked, h⟩ := bind_eq_ok.mp h
    obtain ⟨rfl, rfl⟩ := Prod.mk.inj (Except.ok.inj h)
    exact ⟨mapError_eq_ok.mp hmade, mapError_eq_ok.mp hasked⟩

/-- What a run sends in its two parts: reviews first, and then what they are about. -/
theorem exists_parts {command : Command} {caller : Identity} {service : Service}
    {sent : List HttpRequest}
    (h : sent.Sublist ((command.agenda caller).filterMap service.sent?)) :
    ∃ reviews resources, sent = reviews ++ resources ∧
      reviews.length ≤ 1 ∧ resources.length ≤ 1 ∧
      (∀ r ∈ reviews, ∃ check, command.check? = some check ∧
        service.sent? (.question caller check) = some r) ∧
      ∀ r ∈ resources, ∃ plan, command.plan? = some plan ∧
        service.sent? (.call caller plan.call) = some r := by
  rw [Command.agenda, List.filterMap_append] at h
  obtain ⟨reviews, resources, rfl, hreviews, hresources⟩ := List.sublist_append_iff.mp h
  have hlength {α : Type} (o : Option α) (f : α → Message) :
      ((o.map f).toList.filterMap service.sent?).length ≤ 1 :=
    (List.length_filterMap_le _ _).trans (by cases o <;> simp)
  refine ⟨reviews, resources, rfl, hreviews.length_le.trans (hlength _ _),
    hresources.length_le.trans (hlength _ _), fun r hr => ?_, fun r hr => ?_⟩
  · obtain ⟨message, hmessage, hsent⟩ := List.mem_filterMap.mp (hreviews.subset hr)
    obtain ⟨check, hcheck, rfl⟩ := Option.map_eq_some_iff.mp (Option.mem_toList.mp hmessage)
    exact ⟨check, hcheck, hsent⟩
  · obtain ⟨message, hmessage, hsent⟩ := List.mem_filterMap.mp (hresources.subset hr)
    obtain ⟨plan, hplan, rfl⟩ := Option.map_eq_some_iff.mp (Option.mem_toList.mp hmessage)
    exact ⟨plan, hplan, hsent⟩

/-- The requests are attributed to the user that the option presents: at most one asks about this
user in the service's own name, and at most one does in the user's name what the command is for. -/
structure Attributed (auth : AuthConfig) (credential : AmbientCredential) (args : Arguments)
    (reviews resources : List HttpRequest) : Prop where
  reviews_length : reviews.length ≤ 1
  resources_length : resources.length ≤ 1
  review : ∀ r ∈ reviews, ∃ user, auth.Presents args.actAs user ∧ r.AsksAbout credential user
  resource : ∀ r ∈ resources, ∃ user plan, auth.Presents args.actAs user ∧
    args.command.plan? = some plan ∧ r.CarriesOut credential plan.call user

theorem Attributed.nil (auth : AuthConfig) (credential : AmbientCredential) (args : Arguments) :
    Attributed auth credential args [] [] :=
  ⟨Nat.zero_le _, Nat.zero_le _, by simp, by simp⟩

variable {config : Config} {credential : AmbientCredential}

theorem attributed_of_agenda {service : Service} {ctx : RequestContext} {sent : List HttpRequest}
    (hauth : config.auth.disableAuth = false)
    (hservice : Service.assemble host config credential = .ok service)
    (hctx : RequestContext.forUser config.auth args.actAs ⟨0⟩ = .ok ctx)
    (h : sent.Sublist ((args.command.agenda ctx.identity).filterMap service.sent?)) :
    ∃ reviews resources, sent = reviews ++ resources ∧
      Attributed config.auth credential args reviews resources := by
  have hpresents := RequestContext.forUser_eq_ok hauth hctx
  have hname : ctx.identity.name ≠ "" := hpresents.ne_empty
  obtain ⟨reviews, resources, rfl, hreview, hresource, hreviews, hresources⟩ := exists_parts h
  refine ⟨reviews, resources, rfl, hreview, hresource, fun r hr => ?_, fun r hr => ?_⟩
  · obtain ⟨check, -, hsent⟩ := hreviews r hr
    exact ⟨_, hpresents, Service.asksAbout_of_sent hservice hsent⟩
  · obtain ⟨plan, hplan, hsent⟩ := hresources r hr
    exact ⟨_, plan, hpresents, hplan, Service.carriesOut_of_sent hservice hname hsent⟩

theorem attributed_of_runCommand (send : Transport (StateM σ)) (s : σ)
    (hconfig : args.loadConfig host = .ok config) (hauth : config.auth.disableAuth = false)
    (hcredential : AmbientCredential.find host config.kube.credentialOptions = .ok credential) :
    ∃ reviews resources, (runCommand host send.recording args ([], s)).2.1 = reviews ++ resources ∧
      Attributed config.auth credential args reviews resources := by
  unfold runCommand
  cases hprepare : args.prepare host with
  | error fault => exact ⟨[], [], rfl, .nil _ _ _⟩
  | ok prepared =>
      obtain ⟨service, ctx⟩ := prepared
      obtain ⟨hservice, hctx⟩ := prepare_eq_ok hconfig hcredential hprepare
      obtain ⟨sent, hagenda, hsent⟩ := Command.sent_of_script send (fun _ _ => false)
        (service.keeps_registry ([], s)) service.gate args.command ctx
      rw [List.nil_append] at hsent
      obtain ⟨reviews, resources, rfl, hattributed⟩ :=
        attributed_of_agenda hauth hservice hctx hagenda
      exact ⟨reviews, resources, hsent, hattributed⟩

/-- Whatever comes back, a run sends at most one review and then at most one request for what its
command is for, both attributed to the user that the option presents. A question about access is
not followed by anything, and without such a user nothing is sent. -/
theorem requests_are_attributed (send : Transport (StateM σ)) {texts : List String} (s : σ)
    (hread : Arguments.read (configFile? host) texts = .ok args)
    (hconfig : args.loadConfig host = .ok config) (hauth : config.auth.disableAuth = false)
    (hcredential : AmbientCredential.find host config.kube.credentialOptions = .ok credential) :
    ∃ reviews resources, (run host send.recording texts ([], s)).2.1 = reviews ++ resources ∧
      Attributed config.auth credential args reviews resources ∧
      (∀ verb resource ns group version, args.command = .canI verb resource ns group version →
        resources = []) ∧
      ((∀ given, args.actAs = some given →
          Text.trim given = "" ∨ HeaderValue.ofText? given = none) →
        reviews = [] ∧ resources = []) := by
  obtain ⟨reviews, resources, hsent, hattributed⟩ : ∃ reviews resources,
      (run host send.recording texts ([], s)).2.1 = reviews ++ resources ∧
        Attributed config.auth credential args reviews resources := by
    unfold run
    rw [hread]
    dsimp only
    split
    next => exact ⟨[], [], rfl, .nil _ _ _⟩
    next => exact attributed_of_runCommand send s hconfig hauth hcredential
  refine ⟨reviews, resources, hsent, hattributed, fun verb resource ns group version hcanI => ?_,
    fun hnobody => ?_⟩
  · -- A resource request carries out a plan, and a question about access has none.
    refine List.eq_nil_iff_forall_not_mem.mpr fun r hr => ?_
    obtain ⟨-, plan, -, hplan, -⟩ := hattributed.resource r hr
    rw [hcanI] at hplan
    cases hplan
  · have hnone (user : String) : ¬ config.auth.Presents args.actAs user :=
      AuthConfig.not_presents hnobody
    constructor
    · refine List.eq_nil_iff_forall_not_mem.mpr fun r hr => ?_
      obtain ⟨user, huser, -⟩ := hattributed.review r hr
      exact hnone user huser
    · refine List.eq_nil_iff_forall_not_mem.mpr fun r hr => ?_
      obtain ⟨user, -, huser, -⟩ := hattributed.resource r hr
      exact hnone user huser

/-! ### A run beside a credential that acts for others -/

/-- A kubeconfig by which the service acts for a robot and its crew. -/
def robotConfig : String :=
  "current-context: c\ncontexts:\n- name: c\n  context:\n    cluster: c\n    user: c\n" ++
  "clusters:\n- name: c\n  cluster:\n    server: http://c\n" ++
  "users:\n- name: c\n  user:\n    as: robot\n    as-groups: [crew]\n"

def robotHost : Host where
  env name := if name = "CRUD_BACKEND_KUBECONFIG" then some [0x2F, 0x63] else none
  file path := if path = ⟨[0x2F, 0x63]⟩ then .ok robotConfig.toUTF8.data.toList else .error .missing
  home := ⟨[]⟩
  clock := 0

def robotSettings : Config := { ConfigLayer.resolve {} with kube := ⟨some "/c", none, true⟩ }

def allowing : Transport (StateM Unit) := fun _ =>
  let answer := "\x7b\"apiVersion\":\"authorization.k8s.io/v1\"," ++
    "\"kind\":\"SubjectAccessReview\",\"status\":\x7b\"allowed\":true\x7d\x7d"
  pure (.ok ⟨200, answer.toUTF8.data.toList⟩)

/-- Sources that stand in the order of their precedence are merged as they stand. -/
theorem mergedLayer_of_pairwise {sources : List ConfigSource}
    (h : sources.Pairwise fun a b => decide (a.precedence.level ≤ b.precedence.level) = true) :
    Config.mergedLayer host sources =
      sources.foldlM (fun lower source => do return lower.merge (← source.load host)) {} := by
  rw [Config.mergedLayer, List.mergeSort_of_pairwise h]

theorem ofSystem_robotHost : Config.ofSystem robotHost = .ok robotSettings := by
  unfold Config.ofSystem Config.ofFile Config.ofSources
  rw [mergedLayer_of_pairwise (by decide)]
  decide +kernel

theorem exists_ok_of_toOption {ε α β : Type} {x : Except ε α} {f : α → β} {b : β}
    (h : x.toOption.map f = some b) : ∃ a, x = .ok a ∧ f a = b := by
  cases x with
  | error e => cases h
  | ok a => exact ⟨a, rfl, Option.some.inj h⟩

theorem exists_credential_robotHost :
    ∃ credential, AmbientCredential.find robotHost robotSettings.kube.credentialOptions =
        .ok credential ∧
      credential.user.impersonation =
        [(.impersonateUser, .ofText "robot"), (.impersonateGroup, .ofText "crew")] :=
  exists_ok_of_toOption (by decide +kernel)

theorem length_sent_robotHost :
    (runCommand robotHost allowing.recording { actAs := some " alice ", command := .namespaces }
      ([], ())).2.1.length = 2 := by
  have hconfig : Arguments.loadConfig robotHost
      { actAs := some " alice ", command := .namespaces } = .ok robotSettings := ofSystem_robotHost
  unfold runCommand Arguments.prepare
  rw [hconfig]
  decide +kernel

/-- The reviewer is asked about the user as the robot, and the namespaces are listed as the user. -/
theorem namespaces_listed_beside_robot :
    let args : Arguments := { actAs := some " alice ", command := .namespaces }
    ∃ credential review resource plan,
      Arguments.read (configFile? robotHost) ["namespaces", "--as", " alice "] = .ok args ∧
      args.loadConfig robotHost = .ok robotSettings ∧
      robotSettings.auth.disableAuth = false ∧
      AmbientCredential.find robotHost robotSettings.kube.credentialOptions = .ok credential ∧
      credential.user.impersonation =
        [(.impersonateUser, .ofText "robot"), (.impersonateGroup, .ofText "crew")] ∧
      (run robotHost allowing.recording ["namespaces", "--as", " alice "] ([], ())).2.1 =
        [review, resource] ∧
      review.AsksAbout credential "alice" ∧
      args.command.plan? = some plan ∧ resource.CarriesOut credential plan.call "alice" := by
  intro args
  have hread : Arguments.read (configFile? robotHost) ["namespaces", "--as", " alice "] =
      .ok args := by decide +kernel
  obtain ⟨credential, hcredential, himpersonation⟩ := exists_credential_robotHost
  obtain ⟨reviews, resources, hsent, hattributed, -, -⟩ :=
    requests_are_attributed allowing () hread ofSystem_robotHost rfl hcredential
  have hrun : run robotHost allowing.recording ["namespaces", "--as", " alice "] =
      runCommand robotHost allowing.recording args := by
    rw [run, hread]
    exact if_neg (by decide)
  -- Each part has one request at most, and there are two.
  have hlength := length_sent_robotHost
  rw [← hrun, hsent, List.length_append] at hlength
  have hreviews := hattributed.reviews_length
  have hresources := hattributed.resources_length
  obtain ⟨review, rfl⟩ := List.length_eq_one_iff.mp (by omega : reviews.length = 1)
  obtain ⟨resource, rfl⟩ := List.length_eq_one_iff.mp (by omega : resources.length = 1)
  have halice (user : String) (h : robotSettings.auth.Presents args.actAs user) :
      user = "alice" := by
    obtain ⟨given, hgiven, -, rfl, -⟩ := h
    obtain rfl := Option.some.inj hgiven
    decide
  obtain ⟨asked, hasked, hasks⟩ := hattributed.review review (by simp)
  obtain ⟨user, plan, huser, hplan, hcarries⟩ := hattributed.resource resource (by simp)
  obtain rfl := halice asked hasked
  obtain rfl := halice user huser
  exact ⟨credential, review, resource, plan, hread, ofSystem_robotHost, rfl, hcredential,
    himpersonation, hsent, hasks, hplan, hcarries⟩

end ClusterAccess.CommandLine
