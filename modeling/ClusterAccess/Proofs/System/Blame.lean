import ClusterAccess.Proofs.Request.Effects
import ClusterAccess.Proofs.System.Admission
import ClusterAccess.Proofs.System.Sending
import ClusterAccess.Proofs.Wire.Delivery

/-!
Who is to blame if a call fails. The cause can be told from what has happened and from what was
handed over to be sent, and from each cause it follows who is to blame. An answer of the control
plane is a cause of its own: a caller that it refuses was not denied by the gate.
-/

namespace ClusterAccess

variable {σ α κ : Type} {service : Service} {gate : AuthorizationGate} {ctx : RequestContext}
  {plan : Plan} {accessor : Accessor} {events : List (Event ClusterClient)}
  {sent : List Delivery} {result : Except Fault Json} {f : Fault}

/-! ### What is handed over -/

/-- What an action hands over to a client to be sent for a call, with what the client gives back,
be it what came back or why nothing did. A question to the reviewer is not for a call. -/
def World.delivery? (send : Transport (StateM σ)) (w : World σ ClusterClient) :
    Action ClusterClient → Option Delivery
  | .perform client call => call.request.toOption.map fun r =>
      ⟨r, (client.handle.transport send r w.surroundings).1⟩
  | _ => none

def Service.deliveries (service : Service) (send : Transport (StateM σ))
    (cancelled : σ → CancellationToken → Bool) :
    Script ClusterClient α → World σ ClusterClient → List Delivery
  | .done _, _ => []
  | .act action next, w =>
      let (reply, later) := w.act (service.collaborators send cancelled) action
      (w.delivery? send action).toList ++
        service.deliveries send cancelled (next reply) later

/-- The calls among the events are accounted for by what was handed over: each was answered by what
came back for its request, or it had no request. -/
inductive Accounted : List (Event ClusterClient) → List Delivery → Prop
  | nil : Accounted [] []
  | other {e : Event ClusterClient} {events : List (Event ClusterClient)} {sent : List Delivery}
      (he : ¬ e.action.IsCall) (h : Accounted events sent) : Accounted (e :: events) sent
  | unbuildable {client : Client ClusterClient} {call : ClusterCall} {cause : RequestFault}
      {events : List (Event ClusterClient)} {sent : List Delivery}
      (hrequest : call.request = .error cause) (h : Accounted events sent) :
      Accounted (⟨.perform client call, .error (.invalidRequest cause.message)⟩ :: events) sent
  | delivered {client : Client ClusterClient} {call : ClusterCall} {d : Delivery}
      {events : List (Event ClusterClient)} {sent : List Delivery}
      (hrequest : call.request = .ok d.request) (h : Accounted events sent) :
      Accounted (⟨.perform client call, d.answer call⟩ :: events) (d :: sent)

theorem Service.accounted (service : Service) (send : Transport (StateM σ))
    (cancelled : σ → CancellationToken → Bool) (s : Script ClusterClient α)
    (w : World σ ClusterClient) :
    Accounted (s.events (service.collaborators send cancelled) w)
      (service.deliveries send cancelled s w) := by
  induction s generalizing w with
  | done a => exact .nil
  | act action next ih =>
      -- Only a call is looked at, and what it hands over is decided by whether it has a request.
      have hrest := ih (w.act (service.collaborators send cancelled) action).1
        (w.act (service.collaborators send cancelled) action).2
      cases action with
      | perform client call =>
          simp only [Script.events, Service.deliveries, World.delivery?]
          cases hrequest : call.request with
          | error cause =>
              have hreply : (w.act (service.collaborators send cancelled)
                  (.perform client call)).1 = .error (.invalidRequest cause.message) :=
                congrArg Prod.fst (Transport.perform_of_error (client.handle.transport send)
                  hrequest w.surroundings)
              rw [hreply] at hrest ⊢
              exact .unbuildable hrequest hrest
          | ok r =>
              have hreply : (w.act (service.collaborators send cancelled)
                  (.perform client call)).1 =
                    Delivery.answer ⟨r, (client.handle.transport send r w.surroundings).1⟩ call :=
                congrArg Prod.fst (Transport.perform_of_ok (client.handle.transport send)
                  hrequest w.surroundings)
              rw [hreply] at hrest ⊢
              exact .delivered hrequest hrest
      | _ => exact .other not_false hrest

namespace Accounted

theorem of_append {before later : List (Event ClusterClient)}
    (h : Accounted (before ++ later) sent) (hbefore : ∀ e ∈ before, ¬ e.action.IsCall) :
    Accounted later sent := by
  induction before with
  | nil => exact h
  | cons e before ih =>
      rw [List.forall_mem_cons] at hbefore
      cases h with
      | other he h => exact ih h hbefore.2
      | unbuildable hrequest h => exact absurd trivial hbefore.1
      | delivered hrequest h => exact absurd trivial hbefore.1

theorem eq_nil (h : Accounted events sent) (hevents : ∀ e ∈ events, ¬ e.action.IsCall) :
    sent = [] := by
  rw [← List.append_nil events] at h
  cases h.of_append hevents
  rfl

theorem of_perform {client : Client ClusterClient} {call : ClusterCall}
    {answer : Except Fault Json} (h : Accounted [⟨.perform client call, answer⟩] sent) :
    (∃ cause, call.request = .error cause ∧ answer = .error (.invalidRequest cause.message) ∧
        sent = []) ∨
      ∃ d, call.request = .ok d.request ∧ answer = d.answer call ∧ sent = [d] := by
  cases h with
  | other he h => exact absurd trivial he
  | unbuildable hrequest h =>
      cases h
      exact .inl ⟨_, hrequest, rfl, rfl⟩
  | delivered hrequest h =>
      cases h
      exact .inr ⟨_, hrequest, rfl, rfl⟩

end Accounted

/-- A call that has ended was not made, or had no request, or handed over its request and has the
answer as its result. -/
theorem PlanStage.sent_of_ends (h : PlanStage plan gate ctx events (.ends result))
    (hsent : Accounted events sent) :
    (sent = [] ∧ ∀ e ∈ events, ¬ e.action.IsCall) ∨
      (sent = [] ∧ ∃ client reply cause, ⟨.perform client plan.call, reply⟩ ∈ events ∧
        plan.call.request = .error cause ∧ result = .error (.invalidRequest cause.message)) ∨
      ∃ d, sent = [d] ∧ plan.call.request = .ok d.request ∧
        result = (d.answer plan.call).map plan.payload.of := by
  obtain ⟨before, hbefore, rfl | ⟨client, answer, rfl, rfl⟩⟩ := h.call_is_last
  · exact .inl ⟨hsent.eq_nil hbefore, hbefore⟩
  · rcases (hsent.of_append hbefore).of_perform with
      ⟨cause, hrequest, rfl, rfl⟩ | ⟨d, hrequest, rfl, rfl⟩
    · exact .inr (.inl ⟨rfl, client, _, cause, List.mem_append_right _ (List.mem_singleton_self _),
        hrequest, rfl⟩)
    · exact .inr (.inr ⟨d, rfl, hrequest, rfl⟩)

/-- What was handed over is the one request of the call. The call succeeds if what came back is
usable, and else its fault tells of that. -/
theorem PlanStage.answered_of_sent {d : Delivery}
    (h : PlanStage plan gate ctx events (.ends result)) (hsent : Accounted events sent)
    (hd : d ∈ sent) :
    sent = [d] ∧ plan.call.request = .ok d.request ∧
      (d.IsUsable plan.call.operation ∧ (∃ v, result = .ok v) ∨
        ¬ d.IsUsable plan.call.operation ∧ ∃ f, result = .error f ∧ d.ToldAs plan.call f) := by
  rcases h.sent_of_ends hsent with ⟨rfl, -⟩ | ⟨rfl, -⟩ | ⟨d', rfl, hrequest, rfl⟩
  · cases hd
  · cases hd
  · obtain rfl := List.mem_singleton.mp hd
    refine ⟨rfl, hrequest, (d.answer_cases plan.call).imp ?_ ?_⟩
    · rintro ⟨husable, v, hanswer⟩
      rw [hanswer]
      exact ⟨husable, _, rfl⟩
    · rintro ⟨hunusable, f, hanswer, htold⟩
      rw [hanswer]
      exact ⟨hunusable, f, rfl, htold⟩

/-- If what came back is not usable, the fault tells of it. -/
theorem PlanStage.toldAs_of_sent {d : Delivery}
    (h : PlanStage plan gate ctx events (.ends result)) (hsent : Accounted events sent)
    (hd : d ∈ sent) (hunusable : ¬ d.IsUsable plan.call.operation) :
    ∃ f, result = .error f ∧ d.ToldAs plan.call f := by
  obtain ⟨-, -, ⟨husable, -⟩ | ⟨-, htold⟩⟩ := h.answered_of_sent hsent hd
  · exact absurd husable hunusable
  · exact htold

/-- If a call fails, what came back for it is not usable, and the fault tells of it. -/
theorem PlanStage.toldAs_of_fault {d : Delivery}
    (h : PlanStage plan gate ctx events (.ends (.error f))) (hsent : Accounted events sent)
    (hd : d ∈ sent) : ¬ d.IsUsable plan.call.operation ∧ d.ToldAs plan.call f := by
  obtain ⟨-, -, ⟨-, v, hresult⟩ | ⟨hunusable, g, hresult, htold⟩⟩ := h.answered_of_sent hsent hd
  · cases hresult
  · obtain rfl := Except.error.inj hresult
    exact ⟨hunusable, htold⟩

/-! ### Faults and their events -/

/-- What goes wrong at some event is the result. -/
theorem Ending.eq_error {past : List (Event κ)} {e : Event κ} (h : Ending plan gate ctx past result)
    (he : e ∈ past) (hfault : e.fault? = some f) : result = .error f := by
  cases h with
  | nameless hgate hid =>
      obtain rfl := List.mem_singleton.mp he
      cases hfault
  | failed h =>
      obtain ⟨before, last, rfl, hbefore, hlast⟩ := h
      rcases List.mem_append.mp he with he | he
      · rw [hbefore e he] at hfault
        cases hfault
      · obtain rfl := List.mem_singleton.mp he
        rw [Option.some.inj (hlast.symm.trans hfault)]
  | answered hpast =>
      rcases List.mem_append.mp he with he | he
      · rw [hpast e he] at hfault
        cases hfault
      · obtain rfl := List.mem_singleton.mp he
        cases hfault

/-- What the gate denies, the caller's lack of a name or the answer of the reviewer denies. -/
theorem GateStage.refused_of_denied {gating : Gating} {check : AccessCheck}
    {asked : List (Event κ)}
    (h : GateStage gate gating ctx.identity check asked (.ends (.error f))) :
    Refused ctx (⟨.checkToken ctx.token, false⟩ :: asked) := by
  generalize hfront : (.ends (.error f) : Front κ (Except Fault Unit)) = front at h
  cases h with
  | «open» hgate => simp at hfront
  | anonymous hgate hid => exact .inl ⟨hid, by simp⟩
  | asking hgate hid => cases hfront
  | answered hgate hid answer =>
      refine .inr ⟨ctx.identity, check, answer, by simp, ?_⟩
      rintro rfl
      cases hfront

namespace AmbientCredential

variable {host : Host} {c : AmbientCredential} {id : Identity}

theorem blame_of_client_eq_error (h : c.client host id = .error f) :
    f.blame = .clientConstruction := by
  unfold AmbientCredential.client at h
  split at h
  next => cases h
  next =>
    obtain rfl := Except.error.inj h
    rfl

end AmbientCredential

theorem ClientStage.of_failed {family : Family} {id : Identity}
    {used : List (Event ClusterClient)} (h : ClientStage family id used (.ends (.error f)))
    (howns : ∀ e ∈ used, service.Owns e) :
    f.blame = .clientConstruction ∧ (∃ reply, ⟨.build family id, reply⟩ ∈ used) ∧
      ∀ client, ¬ service.Makes id client := by
  cases h with
  | failed f =>
      have hbuilt : .error f = service.credential.client service.host id :=
        howns ⟨.build family id, .error f⟩ (by simp)
      refine ⟨AmbientCredential.blame_of_client_eq_error hbuilt.symm, ⟨.error f, by simp⟩, ?_⟩
      intro client hmakes
      cases hbuilt.trans hmakes
  | misbound client hid =>
      -- The service makes clients for none but those it is asked for.
      have hbuilt : .ok client = service.credential.client service.host id :=
        howns ⟨.build family id, .ok client⟩ (by simp)
      exact absurd (Service.Makes.identity_eq hbuilt.symm) hid

/-! ### Causes -/

/-- That somebody is to blame, by what has happened and what was handed over. The request itself is
to blame for names that make no reference, for a reference that makes no request, and for being
cancelled. The others are blamed where the gate was reached and did not allow, where no client can
be made for the identity, and where the one reply to the call is not usable. -/
inductive Cause (service : Service) (gate : AuthorizationGate) (accessor : Accessor)
    (ctx : RequestContext) (events : List (Event ClusterClient)) (sent : List Delivery) :
    Blame → Prop
  | denied {plan : Plan} (hplan : accessor.plan = .ok plan)
      (hstands : gate.stands plan.gating = true) (hrefused : Refused ctx events) :
      Cause service gate accessor ctx events sent .authorization
  | notAnswered {plan : Plan} {d : Delivery} (hplan : accessor.plan = .ok plan)
      (hsent : sent = [d]) (hanswer : ¬ d.IsUsable plan.call.operation) :
      Cause service gate accessor ctx events sent .remote
  | noClient {plan : Plan} {reply : Except Fault (Client ClusterClient)}
      (hplan : accessor.plan = .ok plan)
      (hbuild : ⟨.build plan.family (ctx.identityFor plan.attribution), reply⟩ ∈ events)
      (hmakes : ∀ client, ¬ service.Makes (ctx.identityFor plan.attribution) client) :
      Cause service gate accessor ctx events sent .clientConstruction
  | noReference {cause : ReferenceFault} (hcause : accessor.wanted.check = .error cause) :
      Cause service gate accessor ctx events sent .request
  | cancelled (htoken : ⟨.checkToken ctx.token, true⟩ ∈ events) :
      Cause service gate accessor ctx events sent .request
  | noRequest {plan : Plan} {client : Client ClusterClient} {reply : Except Fault Json}
      {cause : RequestFault} (hplan : accessor.plan = .ok plan)
      (hperform : ⟨.perform client plan.call, reply⟩ ∈ events)
      (hcause : plan.call.request = .error cause) :
      Cause service gate accessor ctx events sent .request

namespace PlanStage

/-- A call that fails has a cause. -/
theorem cause_of_fault (h : PlanStage plan gate ctx events (.ends (.error f)))
    (hplan : accessor.plan = .ok plan) (howns : ∀ e ∈ events, service.Owns e)
    (hsent : Accounted events sent) : Cause service gate accessor ctx events sent f.blame := by
  rcases h.sent_of_ends hsent with
    ⟨rfl, huncalled⟩ | ⟨-, client, reply, cause, hperform, hcause, hresult⟩ | ⟨d, rfl, -, -⟩
  · -- Nothing was called, so it was the gate, the factory or the token.
    generalize hfront : (.ends (.error f) : Front _ (Except Fault Json)) = front at h
    cases h with
    | start | asking | obtaining | obtained | performing => cases hfront
    | cancelled =>
        obtain rfl := Except.error.inj (Front.ends.inj hfront)
        exact .cancelled (by simp)
    | denied hgate =>
        obtain rfl := Except.error.inj (Front.ends.inj hfront)
        obtain ⟨⟨reason, rfl⟩, -⟩ := hgate.of_denied
        exact .denied hplan hgate.effects_of_denied.1 hgate.refused_of_denied
    | unobtained hgate hclient =>
        obtain rfl := Except.error.inj (Front.ends.inj hfront)
        obtain ⟨hblame, ⟨reply, hbuild⟩, hmakes⟩ :=
          hclient.of_failed fun e he => howns e (by simp [he])
        rw [hblame]
        exact .noClient hplan (List.mem_append_right _ hbuild) hmakes
    | cancelledLate hgate hclient =>
        obtain rfl := Except.error.inj (Front.ends.inj hfront)
        exact .cancelled (by simp)
    | @performed asked used client hgate hclient answer =>
        exact absurd trivial (huncalled ⟨.perform client plan.call, answer⟩ (by simp))
  · obtain rfl := Except.error.inj hresult
    exact .noRequest hplan hperform hcause
  · obtain ⟨hunusable, htold⟩ := h.toldAs_of_fault hsent (List.mem_singleton_self _)
    rw [htold.blame]
    exact .notAnswered hplan rfl hunusable

end PlanStage

/-- A cause makes the call fail, and its blame is that of the fault. -/
theorem Cause.exists_fault {blame : Blame}
    (hcause : Cause service gate accessor ctx events sent blame)
    (hstage : PlanStage plan gate ctx events (.ends result))
    (hending : Ending plan gate ctx events result)
    (hplan : accessor.plan = .ok plan) (howns : ∀ e ∈ events, service.Owns e)
    (hsent : Accounted events sent) : ∃ f, result = .error f ∧ f.blame = blame := by
  have hsame {other : Plan} (hother : accessor.plan = .ok other) : other = plan :=
    Except.ok.inj (hother.symm.trans hplan)
  cases hcause with
  | denied hother hstands hrefused =>
      obtain rfl := hsame hother
      obtain ⟨reason, hfront, -⟩ := hstage.of_refused hstands hrefused
      exact ⟨_, Front.ends.inj hfront, rfl⟩
  | notAnswered hother hdelivered hunusable =>
      obtain rfl := hsame hother
      obtain ⟨f, hresult, htold⟩ := hstage.toldAs_of_sent hsent (by simp [hdelivered]) hunusable
      exact ⟨f, hresult, htold.blame⟩
  | @noClient _ reply hother hbuild hmakes =>
      obtain rfl := hsame hother
      -- The factory builds what the service makes, and this service makes nothing here.
      have hreply : reply = service.credential.client service.host _ := howns _ hbuild
      cases reply with
      | ok client => exact absurd hreply.symm (hmakes client)
      | error f =>
          exact ⟨f, hending.eq_error hbuild rfl,
            AmbientCredential.blame_of_client_eq_error hreply.symm⟩
  | noReference hcause =>
      rw [Accessor.plan_eq_error.mpr hcause] at hplan
      cases hplan
  | cancelled htoken => exact ⟨.cancelled, hending.eq_error htoken rfl, rfl⟩
  | noRequest hother hperform hcause =>
      obtain rfl := hsame hother
      rcases hstage.sent_of_ends hsent with
        ⟨-, huncalled⟩ | ⟨-, -, -, cause, -, -, hresult⟩ | ⟨d, -, hrequest, -⟩
      · exact absurd trivial (huncalled _ hperform)
      · exact ⟨_, hresult, rfl⟩
      · rw [hrequest] at hcause
        cases hcause

namespace PlanStage

theorem exists_fault_iff {blame : Blame} (h : PlanStage plan gate ctx events (.ends result))
    (hending : Ending plan gate ctx events result) (hplan : accessor.plan = .ok plan)
    (howns : ∀ e ∈ events, service.Owns e) (hsent : Accounted events sent) :
    (∃ f, result = .error f ∧ f.blame = blame) ↔
      Cause service gate accessor ctx events sent blame := by
  constructor
  · rintro ⟨f, rfl, rfl⟩
    exact h.cause_of_fault hplan howns hsent
  · exact fun hcause => hcause.exists_fault h hending hplan howns hsent

theorem sent_eq_nil (h : PlanStage plan gate ctx events (.ends (.error f)))
    (hsent : Accounted events sent) (hblame : f.blame ≠ .remote) : sent = [] := by
  refine List.eq_nil_iff_forall_not_mem.mpr fun d hd => hblame ?_
  exact (h.toldAs_of_fault hsent hd).2.blame

/-- If the control plane is to blame, the one request of the call was handed over. -/
theorem exists_sent (h : PlanStage plan gate ctx events (.ends (.error f)))
    (hplan : accessor.plan = .ok plan) (howns : ∀ e ∈ events, service.Owns e)
    (hsent : Accounted events sent) (hblame : f.blame = .remote) :
    ∃ d, sent = [d] ∧ plan.call.request = .ok d.request ∧
      ¬ d.IsUsable plan.call.operation ∧ d.ToldAs plan.call f := by
  have hcause := h.cause_of_fault hplan howns hsent
  rw [hblame] at hcause
  cases hcause with
  | @notAnswered _ d _ hdelivered _ =>
      have hd : d ∈ sent := by simp [hdelivered]
      obtain ⟨-, hrequest, -⟩ := h.answered_of_sent hsent hd
      exact ⟨d, hdelivered, hrequest, h.toldAs_of_fault hsent hd⟩

/-- What the control plane forbids is told as its own error. -/
theorem eq_error_of_forbidden {d : Delivery} {e : ErrorAnswer}
    (h : PlanStage plan gate ctx events (.ends result)) (hsent : Accounted events sent)
    (hd : d ∈ sent) (he : d.errorAnswer? = some e) (hcode : e.code = 403) :
    result = .error (.api 403 e.reason e.message) := by
  obtain ⟨f, hf, htold⟩ := h.toldAs_of_sent hsent hd (Delivery.not_isUsable_of_errorAnswer? he)
  rw [hf, (htold.answered e he).other (by omega) (by omega), hcode]

end PlanStage

/-! ### The accessor -/

theorem Accessor.run_of_no_plan {cause : ReferenceFault} (gate : AuthorizationGate)
    (ctx : RequestContext) (others : Collaborators σ κ) (w : World σ κ)
    (h : accessor.plan = .error cause) :
    ((accessor.script gate ctx).run others w).result = .error cause.toFault ∧
      (accessor.script gate ctx).events others w = [] := by
  rw [Accessor.script, h]
  exact ⟨rfl, rfl⟩

/-- Without a plan the request is to blame, and nothing else. -/
theorem Cause.iff_of_no_plan {cause : ReferenceFault} {blame : Blame}
    (h : accessor.plan = .error cause) :
    Cause service gate accessor ctx [] sent blame ↔ cause.toFault.blame = blame := by
  constructor
  · intro hcause
    cases hcause with
    | noReference => rfl
    | cancelled htoken => cases htoken
    | denied hplan | notAnswered hplan | noClient hplan | noRequest hplan =>
        rw [h] at hplan
        cases hplan
  · rintro rfl
    exact .noReference (Accessor.plan_eq_error.mp h)

namespace Service

/-- Whatever calls the service has made before, if a call of an accessor fails, its blame tells what
the cause was, and each cause has its own blame. Unless the control plane is to blame, nothing was
handed over for the call. If it is, the one request of the call was, and the fault tells of what
came back: it has the code of an error answer and none without one, and an error about a missing or
a present object names the object. An answer with the code 403 is such an error and no denial. -/
theorem blame_tells_the_cause (service : Service) (send : Transport (StateM σ))
    (cancelled : σ → CancellationToken → Bool) {w : World σ ClusterClient}
    (hw : service.Keeps w) (gate : AuthorizationGate) (accessor : Accessor)
    (ctx : RequestContext) :
    let others := service.collaborators send cancelled
    let run := (accessor.script gate ctx).run others w
    let result := run.result
    let events := (accessor.script gate ctx).events others w
    let sent := service.deliveries send cancelled (accessor.script gate ctx) w
    service.Keeps run.world ∧
      (∀ blame, (∃ f, result = .error f ∧ f.blame = blame) ↔
        Cause service gate accessor ctx events sent blame) ∧
      (∀ f, result = .error f → f.blame ≠ .remote → sent = []) ∧
      (∀ f, result = .error f → f.blame = .remote → ∃ plan d,
        accessor.plan = .ok plan ∧ sent = [d] ∧ plan.call.request = .ok d.request ∧
          ¬ d.IsUsable plan.call.operation ∧ d.ToldAs plan.call f) ∧
      ∀ d ∈ sent, ∀ e, d.errorAnswer? = some e → e.code = 403 →
        result = .error (.api 403 e.reason e.message) := by
  intro others run result events sent
  obtain ⟨howns, hkeeps⟩ : (∀ e ∈ events, service.Owns e) ∧ service.Keeps run.world :=
    Script.run_keeps (fun _ _ hw haction => Keeps.act hw haction)
      (fun _ _ _ hpath => Accessor.allows_of_path hpath) .start (by simp) hw
  have hsent : Accounted events sent := service.accounted send cancelled _ w
  cases hplan : accessor.plan with
  | error cause =>
      obtain ⟨hresult, hevents⟩ : result = .error cause.toFault ∧ events = [] :=
        Accessor.run_of_no_plan gate ctx others w hplan
      have hnone : sent = [] := hsent.eq_nil (by simp [hevents])
      rw [hresult, hevents, hnone]
      refine ⟨hkeeps, fun blame => ?_, fun _ _ _ => rfl, ?_, by simp⟩
      · rw [Cause.iff_of_no_plan hplan]
        simp
      · rintro f hf hblame
        obtain rfl := Except.error.inj hf
        cases hblame
  | ok plan =>
      have hstage : PlanStage plan gate ctx events (.ends result) :=
        Accessor.stage_of_run gate ctx others w hplan
      obtain ⟨hending, -⟩ := hstage.effects_of_ends (Script.replays_events _ w).looksUp
      refine ⟨hkeeps, fun _ => hstage.exists_fault_iff hending hplan howns hsent,
        fun f hf hblame => ?_, fun f hf hblame => ?_,
        fun d hd e he hcode => hstage.eq_error_of_forbidden hsent hd he hcode⟩
      · rw [hf] at hstage
        exact hstage.sent_eq_nil hsent hblame
      · rw [hf] at hstage
        obtain ⟨d, hd⟩ := hstage.exists_sent hplan howns hsent hblame
        exact ⟨plan, d, rfl, hd⟩

/-! ### A control plane that answers everything alike -/

def trusted : Service :=
  let server : Uri := ⟨some "http", some "localhost", ⟨"/", none⟩⟩
  { host := ⟨fun _ => none, fun _ => .error .missing, ⟨[]⟩, 0⟩
    credential := { origin := .kubeconfig, server, defaultNamespace := "default" }
    reviewer := ⟨server, "default", [], none⟩
    gate := ⟨.selective, false⟩
    capacities := {} }

def claimScript : Script ClusterClient (Except Fault Json) :=
  (Accessor.getPvc "ns1" "data").script trusted.gate ⟨⟨"alice"⟩, ⟨0⟩⟩

def claimResult (r : HttpResponse) : Except Fault Json :=
  (claimScript.run (trusted.collaborators (fun _ => pure (.ok r)) fun _ _ => false)
    (⟨trusted.registry, ()⟩ : World Unit ClusterClient)).result

def claimEvents (r : HttpResponse) : List (Event ClusterClient) :=
  claimScript.events (trusted.collaborators (fun _ => pure (.ok r)) fun _ _ => false)
    (⟨trusted.registry, ()⟩ : World Unit ClusterClient)

def claimDeliveries (r : HttpResponse) : List Delivery :=
  trusted.deliveries (fun _ => pure (.ok r)) (fun _ _ => false) claimScript
    (⟨trusted.registry, ()⟩ : World Unit ClusterClient)

def forbidding : HttpResponse where
  status := 403
  body := ("\x7b\"status\":\"Failure\",\"message\":\"no quota\",\"reason\":\"Forbidden\"," ++
    "\"code\":403\x7d").toUTF8.data.toList

theorem claimResult_forbidding :
    claimResult forbidding = .error (.api 403 "Forbidden" "no quota") := by
  rfl

/-- The control plane's own refusal is an error of the control plane and no denial of the gate. -/
theorem claim_forbidden_by_the_control_plane :
    let causes := Cause trusted trusted.gate (.getPvc "ns1" "data") ⟨⟨"alice"⟩, ⟨0⟩⟩
      (claimEvents forbidding) (claimDeliveries forbidding)
    claimResult forbidding = .error (.api 403 "Forbidden" "no quota") ∧
      (claimDeliveries forbidding).length = 1 ∧ causes .remote ∧ ¬ causes .authorization := by
  intro causes
  obtain ⟨-, hcauses, -, htold, -⟩ := blame_tells_the_cause trusted (fun _ => pure (.ok forbidding))
    (fun _ _ => false) (trusted.keeps_registry ()) trusted.gate (.getPvc "ns1" "data")
    ⟨⟨"alice"⟩, ⟨0⟩⟩
  obtain ⟨-, d, -, hsent, -⟩ := htold _ claimResult_forbidding rfl
  refine ⟨claimResult_forbidding, congrArg List.length hsent,
    (hcauses .remote).mp ⟨_, claimResult_forbidding, rfl⟩, fun hdenied => ?_⟩
  obtain ⟨f, hf, hblame⟩ := (hcauses .authorization).mpr hdenied
  obtain rfl := Except.error.inj (claimResult_forbidding.symm.trans hf)
  cases hblame

/-- An error that is no text, and so describes nothing, loses even the code that it came with. -/
theorem unreadable_error_has_no_code :
    ∃ f d r, claimResult ⟨500, [0xC3]⟩ = .error f ∧ f.blame = .remote ∧
      claimDeliveries ⟨500, [0xC3]⟩ = [d] ∧ d.reply = .ok r ∧ r.status = 500 ∧
      r.isError = true ∧ Text.Utf8.text? r.body = none ∧ f.statusCode ≠ some r.status :=
  ⟨.transport "UTF-8 Error: incomplete utf-8 byte sequence from index 0", _, ⟨500, [0xC3]⟩, rfl,
    rfl, rfl, rfl, rfl, rfl, rfl, by decide⟩

end Service

end ClusterAccess
