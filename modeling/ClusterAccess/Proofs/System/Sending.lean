import ClusterAccess.Proofs.Client.Keeping
import ClusterAccess.Proofs.Credential.Impersonation
import ClusterAccess.Proofs.Request.Conduct
import ClusterAccess.Proofs.Wire.Call
import ClusterAccess.Service

/-!
What a service sends. Only questions and calls are sent, each as one request at most: a question by
the service's own client, a call by a client that the factory has built for its sender. Caches have
no part in it, because they keep nothing but what the factory would build again.
-/

namespace ClusterAccess

variable {σ α : Type}

def ClusterClient.sent? (client : ClusterClient) (request : Except RequestFault HttpRequest) :
    Option HttpRequest :=
  match client.obstacle, request with
  | none, .ok r => some (client.address r)
  | _, _ => none

/-- Behind a client, an exchange sends what the client sends. -/
theorem Transport.sent_of_exchange_behind (client : ClusterClient) (send : Transport (StateM σ))
    (request : Except RequestFault HttpRequest) (read : HttpResponse → Except CallFault α)
    (sent : List HttpRequest) (s : σ) :
    (exchange (client.transport send.recording) request read (sent, s)).2.1 =
      sent ++ (client.sent? request).toList := by
  cases request with
  | error cause =>
      have hnothing : client.sent? (.error cause) = none := by
        cases hobstacle : client.obstacle <;> simp only [ClusterClient.sent?, hobstacle]
      rw [exchange_of_error, hnothing]
      exact (List.append_nil sent).symm
  | ok r =>
      cases hobstacle : client.obstacle with
      | some obstacle =>
          simp only [exchange, ClusterClient.transport, ClusterClient.sent?, hobstacle]
          exact (List.append_nil sent).symm
      | none =>
          have hbehind : exchange (client.transport send.recording) (.ok r) read =
              exchange send.recording (.ok (client.address r)) read := by
            simp only [exchange, ClusterClient.transport, hobstacle]
          rw [hbehind, sent_of_exchange]
          simp [ClusterClient.sent?, hobstacle]

namespace Service

/-- Those that the requests of a service act on, where every request that is sent is noted. -/
abbrev recorded (service : Service) (send : Transport (StateM σ))
    (cancelled : List HttpRequest × σ → CancellationToken → Bool) :
    Collaborators (List HttpRequest × σ) ClusterClient :=
  service.collaborators send.recording cancelled

/-! ### Actions -/

section Actions

variable (service : Service) (send : Transport (StateM σ))
  (cancelled : List HttpRequest × σ → CancellationToken → Bool)

def sentBy? : Action ClusterClient → Option HttpRequest
  | .review asker check => service.reviewer.sent? (AccessReview.request asker check)
  | .perform client call => client.handle.sent? call.request
  | _ => none

theorem sent_of_act (w : World (List HttpRequest × σ) ClusterClient)
    (action : Action ClusterClient) :
    (w.act (service.recorded send cancelled) action).2.surroundings.1 =
      w.surroundings.1 ++ (service.sentBy? action).toList := by
  obtain ⟨registry, sent, s⟩ := w
  cases action with
  | review asker check =>
      exact Transport.sent_of_exchange_behind service.reviewer send
        (AccessReview.request asker check)
        (fun r => do AccessReview.readAnswer (← r.text)) sent s
  | perform client call => exact Transport.sent_of_exchange_behind client.handle send _ _ sent s
  | _ => exact (List.append_nil sent).symm

theorem sent_of_run (s : Script ClusterClient α)
    (w : World (List HttpRequest × σ) ClusterClient) :
    let run := s.run (service.recorded send cancelled) w
    run.world.surroundings.1 = w.surroundings.1 ++ run.actions.filterMap service.sentBy? := by
  induction s generalizing w with
  | done a => simp [Script.run]
  | act action next ih =>
      simp only [Script.run, List.filterMap_cons]
      rw [ih, sent_of_act, List.append_assoc]
      cases service.sentBy? action <;> rfl

end Actions

/-! ### Clients -/

variable {service : Service}

def Makes (service : Service) (id : Identity) (client : Client ClusterClient) : Prop :=
  service.credential.client service.host id = .ok client

/-- What came back from an action is the service's own, and so is the client that makes a call. -/
def Owns (service : Service) : Event ClusterClient → Prop
  | ⟨.lookup _ id, found⟩ => ∀ client, found = some client → service.Makes id client
  | ⟨.build _ id, built⟩ => built = service.credential.client service.host id
  | ⟨.store _ id _, kept⟩ => service.Makes id kept
  | ⟨.perform client _, _⟩ => service.Makes client.identity client
  | _ => True

def Allows (service : Service) : Action ClusterClient → Prop
  | .store _ id client => service.Makes id client
  | .perform client _ => service.Makes client.identity client
  | _ => True

def Keeps (service : Service) (w : World σ ClusterClient) : Prop :=
  w.registry.Keeps fun _ => service.Makes

theorem Keeps.act {send : Transport (StateM σ)} {cancelled : σ → CancellationToken → Bool}
    {w : World σ ClusterClient} {action : Action ClusterClient} (hw : service.Keeps w)
    (haction : service.Allows action) :
    service.Owns ⟨action, (w.act (service.collaborators send cancelled) action).1⟩ ∧
      service.Keeps (w.act (service.collaborators send cancelled) action).2 := by
  cases action with
  | checkToken token => exact ⟨trivial, hw⟩
  | review asker check => exact ⟨trivial, hw⟩
  | lookup family id =>
      -- What is found is kept, and so it is what would be built.
      refine ⟨fun client hfound => ?_, hw.setCache ((hw family).lookup id)⟩
      exact hw family id client (ClientCache.lookup_fst.symm.trans hfound)
  | build family id => exact ⟨rfl, hw.setCache (hw family)⟩
  | store family id client =>
      exact ⟨(hw family).store_fst haction, hw.setCache ((hw family).store haction)⟩
  | perform client call => exact ⟨haction, hw⟩

end Service

variable {service : Service} {gate : AuthorizationGate} {ctx : RequestContext} {plan : Plan}
  {family : Family} {id : Identity} {asked used past : List (Event ClusterClient)}

/-- A request for a client ends with the service's own one. -/
theorem ClientStage.makes_of_ends {client : Client ClusterClient}
    (h : ClientStage family id used (.ends (.ok client))) (howns : ∀ e ∈ used, service.Owns e) :
    service.Makes id client := by
  cases h with
  | hit => exact howns ⟨.lookup family id, some client⟩ (by simp) client rfl
  | stored built kept hid => exact howns ⟨.store family id built, client⟩ (by simp)

theorem Service.Makes.identity_eq {client : Client ClusterClient}
    (h : service.Makes id client) : client.identity = id :=
  (AmbientCredential.client_eq_ok h).1

/-- A client that makes a call is the service's own one for its identity. -/
theorem PlanStage.makes_of_perform {client : Client ClusterClient} {call : ClusterCall}
    (h : PlanStage plan gate ctx past (.takes (.perform client call)))
    (howns : ∀ e ∈ past, service.Owns e) : service.Makes client.identity client := by
  cases h with
  | asking hgate => cases hgate
  | obtaining hgate hclient => cases hclient
  | performing hgate hclient =>
      have hmakes : service.Makes (ctx.identityFor plan.attribution) client :=
        hclient.makes_of_ends fun e he => howns e (by simp [he])
      rw [hmakes.identity_eq]
      exact hmakes

theorem Accessor.allows_of_path {accessor : Accessor} {action : Action ClusterClient}
    {next : action.Reply → Script ClusterClient (Except Fault Json)}
    (hpath : (accessor.script gate ctx).Path past (.act action next))
    (howns : ∀ e ∈ past, service.Owns e) : service.Allows action := by
  rcases Accessor.stage_of_path hpath with ⟨f, -, -, hfront⟩ | ⟨plan, -, hstage⟩
  · simp [Script.front] at hfront
  · cases action with
    | store family id client => exact (howns _ hstage.built_of_store.2).symm
    | perform client call => exact hstage.makes_of_perform howns
    | _ => trivial

/-! ### Messages -/

variable {κ : Type}

theorem GateStage.messages_sublist {gating : Gating} {check : AccessCheck}
    {asked : List (Event κ)} {front : Front κ (Except Fault Unit)}
    (h : GateStage gate gating id check asked front) :
    (messages (asked.map (·.action))).Sublist [.question id check] := by
  cases h <;> simp

theorem ClientStage.messages_eq_nil {used : List (Event κ)}
    {front : Front κ (Except Fault (Client κ))}
    (h : ClientStage family id used front) : messages (used.map (·.action)) = [] := by
  cases h <;> rfl

/-- A call that has ended has sent its question and its call at most, in this order. -/
theorem PlanStage.messages_sublist {result : Except Fault Json}
    (h : PlanStage plan gate ctx past (.ends result)) (howns : ∀ e ∈ past, service.Owns e) :
    (messages (past.map (·.action))).Sublist
      [.question ctx.identity plan.check, .call (ctx.identityFor plan.attribution) plan.call] := by
  -- Until the call is made, the gate alone may have sent something.
  have hquestion : ∀ {sent : List Message}, sent.Sublist [.question ctx.identity plan.check] →
      sent.Sublist
        [.question ctx.identity plan.check, .call (ctx.identityFor plan.attribution) plan.call] :=
    fun hsent => hsent.trans (List.sublist_append_left _ [_])
  cases h with
  | cancelled => simp
  | denied hgate =>
      rw [List.map_cons, messages_checkToken]
      exact hquestion hgate.messages_sublist
  | unobtained hgate hclient =>
      rw [List.map_append, messages_append, hclient.messages_eq_nil, List.append_nil, List.map_cons,
        messages_checkToken]
      exact hquestion hgate.messages_sublist
  | cancelledLate hgate hclient =>
      rw [List.map_append, List.map_append, messages_append, messages_append,
        hclient.messages_eq_nil, List.append_nil, List.map_cons, messages_checkToken]
      exact hquestion (by simpa using hgate.messages_sublist)
  | @performed asked used client hgate hclient answer =>
      have hmakes : service.Makes (ctx.identityFor plan.attribution) client :=
        hclient.makes_of_ends fun e he => howns e (by simp [he])
      rw [List.map_append, List.map_append, messages_append, messages_append,
        hclient.messages_eq_nil, List.append_nil, List.map_cons, List.map_cons, List.map_cons,
        List.map_nil, messages_checkToken, messages_checkToken, messages_perform, messages_nil,
        hmakes.identity_eq]
      exact hgate.messages_sublist.append (List.Sublist.refl _)

namespace Service

/-- The request in which a message is sent, if it is sent. A call is sent by the client that the
service makes for its sender. -/
def sent? (service : Service) : Message → Option HttpRequest
  | .question asker check => service.reviewer.sent? (AccessReview.request asker check)
  | .call sender call =>
    match service.credential.client service.host sender with
    | .ok client => client.handle.sent? call.request
    | .error _ => none

theorem sentBy?_of_owns {e : Event ClusterClient} (h : service.Owns e) :
    service.sentBy? e.action = e.action.message?.bind service.sent? := by
  obtain ⟨action, reply⟩ := e
  cases action with
  | perform client call =>
      have hmakes : service.Makes client.identity client := h
      rw [Makes] at hmakes
      simp [sentBy?, Action.message?, sent?, hmakes]
  | _ => rfl

theorem filterMap_sentBy? {events : List (Event ClusterClient)}
    (howns : ∀ e ∈ events, service.Owns e) :
    (events.map (·.action)).filterMap service.sentBy? =
      (messages (events.map (·.action))).filterMap service.sent? := by
  induction events with
  | nil => rfl
  | cons e events ih =>
      rw [List.forall_mem_cons] at howns
      rw [List.map_cons, List.filterMap_cons, sentBy?_of_owns howns.1, ih howns.2]
      cases hmessage : e.action.message? <;> simp [messages, hmessage, List.filterMap_cons]

variable (send : Transport (StateM σ)) (cancelled : List HttpRequest × σ → CancellationToken → Bool)
  {w : World (List HttpRequest × σ) ClusterClient}

/-- The requests of a run are those of its messages, if only clients of the service make calls. -/
theorem sent_of_messages {s : Script ClusterClient α} (hw : service.Keeps w)
    (hallows : ∀ past action next, s.Path past (.act action next) →
      (∀ e ∈ past, service.Owns e) → service.Allows action) :
    let others := service.recorded send cancelled
    let run := s.run others w
    (∀ e ∈ s.events others w, service.Owns e) ∧
      run.world.surroundings.1 =
        w.surroundings.1 ++ (messages run.actions).filterMap service.sent? := by
  intro others run
  obtain ⟨howns, -⟩ := Script.run_keeps (fun _ _ hw haction => Keeps.act hw haction) hallows .start
    (by simp) hw
  refine ⟨howns, ?_⟩
  have hactions : run.actions = (s.events others w).map (·.action) := s.actions_run w
  rw [sent_of_run, hactions, filterMap_sentBy? howns, ← hactions]

theorem keeps_registry (service : Service) (s : σ) : service.Keeps ⟨service.registry, s⟩ :=
  ClientRegistry.keeps_empty _ _

end Service

def Accessor.agenda (accessor : Accessor) (ctx : RequestContext) : List Message :=
  match accessor.plan with
  | .error _ => []
  | .ok plan =>
    [.question ctx.identity plan.check, .call (ctx.identityFor accessor.attribution) plan.call]

/-- An accessor call sends no more than is on its agenda, and in this order, whatever comes back and
whatever its caches have kept of calls before it. -/
theorem Service.sent_of_access (send : Transport (StateM σ))
    (cancelled : List HttpRequest × σ → CancellationToken → Bool)
    {w : World (List HttpRequest × σ) ClusterClient} (hw : service.Keeps w)
    (gate : AuthorizationGate) (accessor : Accessor) (ctx : RequestContext) :
    let run := (accessor.script gate ctx).run (service.recorded send cancelled) w
    run.world.surroundings.1 =
        w.surroundings.1 ++ (messages run.actions).filterMap service.sent? ∧
      (messages run.actions).Sublist (accessor.agenda ctx) := by
  intro run
  obtain ⟨howns, hsent⟩ :=
    Service.sent_of_messages send cancelled (s := accessor.script gate ctx) hw
    fun _ _ _ hpath => Accessor.allows_of_path hpath
  refine ⟨hsent, ?_⟩
  have hactions : run.actions = ((accessor.script gate ctx).events
      (service.recorded send cancelled) w).map (·.action) := Script.actions_run _ w
  rw [hactions]
  rcases Accessor.stage_of_path (Script.path_events (service.recorded send cancelled)
      (accessor.script gate ctx) w) with
    ⟨f, -, hevents, -⟩ | ⟨plan, hplan, hstage⟩
  · rw [hevents]
    exact List.nil_sublist _
  · rw [Accessor.agenda, hplan, ← (Accessor.attribution_and_gating_of_plan hplan).1]
    exact hstage.messages_sublist howns

end ClusterAccess
