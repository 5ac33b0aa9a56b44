import ClusterAccess.Proofs.Request.Conduct
import ClusterAccess.Proofs.Request.Effects

/-!
Requests that are cancelled while they go on. A request looks at its token right before it asks the
reviewer and right before it calls the control plane, so neither is begun once the token is
cancelled, whoever cancels it in the meantime. Then the request ends as cancelled, unless the answer
that it was waiting for does not allow it or no client can be built for it.
-/

namespace ClusterAccess

variable {σ κ α : Type} {others : Collaborators σ κ} {w w' v v' : World σ κ}
  {token : CancellationToken} {before after earlier later : List (Event κ)}

/-! ### Tokens -/

/-- The token stays cancelled once it is, whatever the others are asked. -/
structure Collaborators.KeepsCancelled (others : Collaborators σ κ) (token : CancellationToken) :
    Prop where
  review : ∀ asker check s, others.cancelled s token = true →
    others.cancelled (others.review asker check s).2 token = true
  factory : ∀ family id c s, others.cancelled s token = true →
    others.cancelled (others.factory family id (c, s)).2.2 token = true
  perform : ∀ client call s, others.cancelled s token = true →
    others.cancelled (others.perform client call s).2 token = true

namespace Collaborators.KeepsCancelled

theorem act (h : others.KeepsCancelled token)
    (hw : others.cancelled w.surroundings token = true) (action : Action κ) :
    others.cancelled (w.act others action).2.surroundings token = true := by
  cases action with
  | review asker check => exact h.review asker check _ hw
  | build family id => exact h.factory family id _ _ hw
  | perform client call => exact h.perform client call _ hw
  | _ => exact hw

theorem replays (h : others.KeepsCancelled token) (hlater : Replays others v later v')
    (hv : others.cancelled v.surroundings token = true) :
    others.cancelled v'.surroundings token = true := by
  induction hlater with
  | nil => exact hv
  | cons action _ ih => exact ih (h.act hv action)

end Collaborators.KeepsCancelled

theorem Replays.unique (h : Replays others w before v) (h' : Replays others w before v') :
    v = v' := by
  induction h with
  | nil => cases h' with
    | nil => rfl
  | cons action _ ih => cases h' with
    | cons _ h' => exact ih h'

/-- To look at a token changes nothing, so it is what it was seen to be. -/
theorem Replays.cancelled_eq {cancelled : Bool}
    (h : Replays others w (earlier ++ [⟨.checkToken token, cancelled⟩]) v) :
    others.cancelled v.surroundings token = cancelled := by
  obtain ⟨u, -, hlook⟩ := h.exists_between
  cases hlook with
  | cons _ hend => cases hend with
    | nil => rfl

/-- The token is cancelled by the time that the world has given these replies. -/
def Collaborators.CancelledAfter (others : Collaborators σ κ) (w : World σ κ)
    (token : CancellationToken) (past : List (Event κ)) : Prop :=
  ∃ v, Replays others w past v ∧ others.cancelled v.surroundings token = true

/-- The moment of the cancellation is later than whatever came right after a look that found the
token active. -/
theorem Collaborators.CancelledAfter.beyond_look (hkeeps : others.KeepsCancelled token)
    (hcancelled : others.CancelledAfter w token before)
    (hreplays : Replays others w (before ++ after) w')
    (hevents : before ++ after = earlier ++ ⟨.checkToken token, false⟩ :: later) :
    ∃ e more, before = earlier ++ ⟨.checkToken token, false⟩ :: e :: more ∧
      later = e :: more ++ after := by
  obtain ⟨v, hbefore, hv⟩ := hcancelled
  -- Right after the look the token is active, so the moment does not come before that.
  have hnot : ∀ between, before ++ between ≠ earlier ++ [⟨.checkToken token, false⟩] := by
    intro between hlook
    have hsplit : before ++ after = (before ++ between) ++ later := by
      rw [hevents, hlook]
      simp
    rw [hsplit] at hreplays
    obtain ⟨u, hu, -⟩ := hreplays.exists_between
    obtain ⟨v', hbefore', hbetween⟩ := hu.exists_between
    obtain rfl := hbefore.unique hbefore'
    rw [hlook] at hu
    have hactive := hu.cancelled_eq
    rw [hkeeps.replays hbetween hv] at hactive
    cases hactive
  rw [List.append_cons] at hevents
  rcases List.append_eq_append_iff.mp hevents with ⟨between, hlook, -⟩ | ⟨more, hmore, hlater⟩
  · exact absurd hlook.symm (hnot between)
  · cases more with
    | nil => exact absurd (by simpa using hmore) (hnot [])
    | cons e more => exact ⟨e, more, by simpa using hmore, hlater⟩

/-! ### Looking before sending -/

/-- The script sends nothing but right after a look that finds the token active. -/
def Script.LooksFirst (token : CancellationToken) (s : Script κ α) : Prop :=
  s.Along (fun past front => ∀ action message, front = .takes action →
    action.message? = some message → ∃ earlier, past = earlier ++ [⟨.checkToken token, false⟩]) []

/-- No message of such a script is begun after the token is cancelled. -/
theorem Script.LooksFirst.messages_eq_nil {s : Script κ α} (hlooks : s.LooksFirst token)
    (hkeeps : others.KeepsCancelled token) (hevents : s.events others w = before ++ after)
    (hcancelled : others.CancelledAfter w token before) :
    messages (after.map (·.action)) = [] := by
  have hpath := Script.path_events others s w
  have hreplays : Replays others w (s.events others w) _ := Script.replays_events s w
  rw [hevents] at hpath hreplays
  rw [messages, List.filterMap_eq_nil_iff]
  rintro _ haction
  obtain ⟨e, he, rfl⟩ := List.mem_map.mp haction
  rw [Option.eq_none_iff_forall_ne_some]
  intro message hmessage
  obtain ⟨between, rest, rfl⟩ := List.append_of_mem he
  rw [← List.append_assoc] at hpath
  obtain ⟨next, hnext⟩ := hpath.before
  obtain ⟨earlier, hlook⟩ := (hlooks.of_path hnext).front e.action message rfl hmessage
  have hsplit : before ++ (between ++ e :: rest) =
      earlier ++ ⟨.checkToken token, false⟩ :: e :: rest := by
    rw [← List.append_assoc, hlook]
    simp
  -- The look is over when the token is cancelled, and what comes after it is what was sent.
  obtain ⟨first, more, rfl, -⟩ := hcancelled.beyond_look hkeeps hreplays hsplit
  have hlength := congrArg List.length hlook
  simp at hlength

variable {gate : AuthorizationGate} {ctx : RequestContext} {plan : Plan} {past : List (Event κ)}

theorem ClientStage.message?_eq_none {family : Family} {id : Identity} {action : Action κ}
    (h : ClientStage family id past (.takes action)) : action.message? = none := by
  cases h <;> rfl

theorem PlanStage.exists_look {action : Action κ} {message : Message}
    (h : PlanStage plan gate ctx past (.takes action)) (hmessage : action.message? = some message) :
    ∃ earlier, past = earlier ++ [⟨.checkToken ctx.token, false⟩] := by
  cases h with
  | start => cases hmessage
  | asking hgate => cases hgate with
    | asking => exact ⟨[], rfl⟩
  | obtaining _ hclient =>
      rw [hclient.message?_eq_none] at hmessage
      cases hmessage
  | obtained => cases hmessage
  | performing => exact ⟨_, rfl⟩

theorem Accessor.looksFirst {accessor : Accessor} (gate : AuthorizationGate)
    (ctx : RequestContext) (hplan : accessor.plan = .ok plan) :
    (accessor.script gate ctx : Script κ _).LooksFirst ctx.token := by
  rw [Accessor.script_of_plan gate ctx hplan]
  refine (plan.along_script gate ctx).mono ?_
  rintro past _ hstage action message rfl hmessage
  exact hstage.exists_look hmessage

theorem looksFirst_canI (gate : AuthorizationGate) (ctx : RequestContext) (verb : String)
    (kind : ResourceKind) (ns : Option String) :
    (canI gate ctx verb kind ns : Script κ _).LooksFirst ctx.token := by
  rw [canI_eq]
  refine ⟨by rintro _ _ ⟨⟩ ⟨⟩, fun cancelled => ?_⟩
  cases cancelled with
  | true => rintro _ _ ⟨⟩
  | false =>
      dsimp only
      split
      next => rintro _ _ ⟨⟩
      next =>
        split
        next => rintro _ _ ⟨⟩
        next => exact ⟨fun _ _ _ _ => ⟨[], rfl⟩, fun answer => by rintro _ _ ⟨⟩⟩

/-! ### How a cancelled request ends -/

/-- How a request ends whose call has not begun when it is cancelled: by that, unless the review
that is going on does not allow it, or its client is not built. -/
inductive Abandoned (plan : Plan) (ctx : RequestContext) (before after : List (Event κ)) :
    Except Fault Json → Prop
  | cancelled (h : ∀ e ∈ before ++ after, e.fault? = none ∨ e = ⟨.checkToken ctx.token, true⟩) :
      Abandoned plan ctx before after (.error .cancelled)
  | denied {answer : Except Fault Bool} {reason : String}
      (h : before.getLast? = some ⟨.review ctx.identity plan.check, answer⟩)
      (hanswer : Decision.ofReview answer = .deny reason) :
      Abandoned plan ctx before after (.error (.forbidden ctx.identity.display plan.check.verb
        plan.check.resourceLabel plan.check.ns reason))
  | unbuilt {f : Fault}
      (h : ⟨.build plan.family (ctx.identityFor plan.attribution), .error f⟩ ∈ before ++ after) :
      Abandoned plan ctx before after (.error f)
  | misbound {client : Client κ}
      (h : ⟨.build plan.family (ctx.identityFor plan.attribution), .ok client⟩ ∈ before ++ after)
      (hid : client.identity ≠ ctx.identityFor plan.attribution) :
      Abandoned plan ctx before after
        (.error (ClientCache.misbound (ctx.identityFor plan.attribution) client.identity))

/-- The gate denies unasked, or by the answer to its one question. -/
theorem GateStage.asked_of_denied {gating : Gating} {id : Identity} {check : AccessCheck}
    {asked : List (Event κ)} {f : Fault}
    (h : GateStage gate gating id check asked (.ends (.error f))) :
    asked = [] ∨ ∃ answer reason, asked = [⟨.review id check, answer⟩] ∧
      Decision.ofReview answer = .deny reason ∧
        f = .forbidden id.display check.verb check.resourceLabel check.ns reason := by
  generalize hfront : (.ends (.error f) : Front κ (Except Fault Unit)) = front at h
  cases h with
  | «open» => cases hfront
  | anonymous => exact .inl rfl
  | asking => cases hfront
  | answered _ _ answer =>
      have hdenied := Front.ends.inj hfront
      cases hdecision : Decision.ofReview answer with
      | allow =>
          rw [hdecision] at hdenied
          cases hdenied
      | deny reason =>
          rw [hdecision] at hdenied
          exact .inr ⟨answer, reason, rfl, hdecision, Except.error.inj hdenied⟩

theorem ClientStage.abandoned {used : List (Event κ)} {f : Fault}
    (h : ClientStage plan.family (ctx.identityFor plan.attribution) used (.ends (.error f)))
    (hused : ∀ e ∈ used, e ∈ before ++ after) : Abandoned plan ctx before after (.error f) := by
  cases h with
  | failed => exact .unbuilt (hused _ (by simp))
  | misbound client hid => exact .misbound (hused _ (by simp)) hid

theorem PlanStage.abandoned {result : Except Fault Json} (hkeeps : others.KeepsCancelled ctx.token)
    (hcancelled : others.CancelledAfter w ctx.token before)
    (hreplays : Replays others w (before ++ after) w')
    (h : PlanStage plan gate ctx (before ++ after) (.ends result))
    (hbefore : ∀ e ∈ before, ¬ e.action.IsCall) : Abandoned plan ctx before after result := by
  generalize hevents : before ++ after = past at h
  cases h with
  | cancelled => exact .cancelled (by simp [hevents])
  | denied hgate =>
      have hlook := hevents.trans (List.nil_append _).symm
      obtain ⟨first, more, rfl, hasked⟩ := hcancelled.beyond_look hkeeps hreplays hlook
      rcases hgate.asked_of_denied with rfl | ⟨answer, reason, rfl, hanswer, rfl⟩
      · cases hasked
      · obtain ⟨rfl, hmore⟩ := List.cons.inj hasked
        obtain ⟨rfl, rfl⟩ := List.append_eq_nil_iff.mp hmore.symm
        exact .denied rfl hanswer
  | unobtained _ hclient =>
      refine hclient.abandoned fun e he => ?_
      rw [hevents]
      exact List.mem_append_right _ he
  | cancelledLate hgate hclient =>
      refine .cancelled fun e he => ?_
      rw [hevents] at he
      rcases List.mem_append.mp he with he | he
      · exact .inl (fault?_of_obtained hgate hclient e he)
      · exact .inr (List.mem_singleton.mp he)
  | @performed asked used client hgate hclient answer =>
      -- The call comes right after a look, so it has begun before the token is cancelled.
      obtain ⟨first, more, rfl, hlater⟩ := hcancelled.beyond_look hkeeps hreplays hevents
      obtain ⟨rfl, -⟩ := List.cons.inj hlater
      exact absurd trivial (hbefore ⟨.perform client plan.call, answer⟩ (by simp))

/-- Once the token of a request is cancelled, be it before the request, while the reviewer answers
or while the factory builds, neither a question nor a call is begun for it. A request that is
cancelled beforehand does nothing but find that out; one that is cancelled before its call ends as
cancelled, unless the review going on then does not allow it or its client is not built. Questions
about access are no more begun after that than those of the gate. -/
theorem nothing_starts_after_cancellation (others : Collaborators σ κ) (w : World σ κ)
    (gate : AuthorizationGate) (ctx : RequestContext) (hkeeps : others.KeepsCancelled ctx.token) :
    (∀ (accessor : Accessor) (plan : Plan), accessor.plan = .ok plan →
      let result := ((accessor.script gate ctx).run others w).result
      ∀ before after, (accessor.script gate ctx).events others w = before ++ after →
        others.CancelledAfter w ctx.token before →
        messages (after.map (·.action)) = [] ∧
          (before = [] → result = .error .cancelled ∧ after = [⟨.checkToken ctx.token, true⟩]) ∧
          ((∀ e ∈ before, ¬ e.action.IsCall) → Abandoned plan ctx before after result)) ∧
    ∀ verb kind ns before after, (canI gate ctx verb kind ns).events others w = before ++ after →
      others.CancelledAfter w ctx.token before →
      messages (after.map (·.action)) = [] ∧
        (before = [] → ((canI gate ctx verb kind ns).run others w).result = .error .cancelled) := by
  have htoken : others.CancelledAfter w ctx.token [] →
      others.cancelled w.surroundings ctx.token = true := by
    rintro ⟨v, hv, hcancelled⟩
    cases hv with
    | nil => exact hcancelled
  refine ⟨fun accessor plan hplan before after hevents hcancelled => ?_,
    fun verb kind ns before after hevents hcancelled => ?_⟩
  · have hstage := Accessor.stage_of_run gate ctx others w hplan
    have hreplays : Replays others w ((accessor.script gate ctx).events others w) _ :=
      Script.replays_events (accessor.script gate ctx) w
    rw [hevents] at hstage hreplays
    refine ⟨(Accessor.looksFirst gate ctx hplan).messages_eq_nil hkeeps hevents hcancelled, ?_,
      hstage.abandoned hkeeps hcancelled hreplays⟩
    rintro rfl
    obtain ⟨hresult, hend, -⟩ := Accessor.cancelled_of_plan gate hplan (htoken hcancelled)
    exact ⟨hresult, hevents.symm.trans hend⟩
  · refine ⟨(looksFirst_canI gate ctx verb kind ns).messages_eq_nil hkeeps hevents hcancelled, ?_⟩
    rintro rfl
    have hact : w.act others (.checkToken ctx.token) = (true, w) :=
      congrArg (·, w) (htoken hcancelled)
    rw [canI_eq]
    simp [Script.run, hact]

def Collaborators.cancelledInReview : Collaborators Bool Unit where
  cancelled s _ := s
  review _ _ _ := (.ok true, true)
  factory := ClientCache.detached fun _ id => pure (.ok ⟨id, ()⟩)
  perform _ _ := pure (.ok .null)

/-- Pods are not listed once the token is cancelled, though the review allows it and a client is
built. -/
theorem pods_not_listed_after_cancellation :
    ∃ (plan : Plan) (before after : List (Event Unit)) (answer : Except Fault Bool),
      (Accessor.listPods "ns1" none .caller).plan = .ok plan ∧
      ((Accessor.listPods "ns1" none .caller).script ⟨.strict, false⟩ ⟨⟨"alice"⟩, ⟨0⟩⟩).events
        .cancelledInReview ⟨.empty {}, false⟩ = before ++ after ∧
      before = [⟨.checkToken ⟨0⟩, false⟩, ⟨.review ⟨"alice"⟩ plan.check, answer⟩] ∧
      messages (after.map (·.action)) = [] ∧
      Abandoned plan ⟨⟨"alice"⟩, ⟨0⟩⟩ before after (.error .cancelled) := by
  have hkeeps : Collaborators.cancelledInReview.KeepsCancelled ⟨0⟩ :=
    ⟨fun _ _ _ _ => rfl, fun _ _ _ _ h => h, fun _ _ _ h => h⟩
  obtain ⟨haccess, -⟩ := nothing_starts_after_cancellation Collaborators.cancelledInReview
    ⟨.empty {}, false⟩ ⟨.strict, false⟩ ⟨⟨"alice"⟩, ⟨0⟩⟩ hkeeps
  have hreview : Collaborators.cancelledInReview.CancelledAfter ⟨.empty {}, false⟩ ⟨0⟩
      [⟨.checkToken ⟨0⟩, false⟩, ⟨.review ⟨"alice"⟩ ⟨"list", "", "v1", "pods", none, some "ns1",
        none⟩, .ok true⟩] := ⟨_, .cons _ (.cons _ (.nil _)), rfl⟩
  obtain ⟨hmessages, -, hends⟩ := haccess (.listPods "ns1" none .caller) _ rfl _ _ rfl hreview
  exact ⟨_, _, _, _, rfl, rfl, rfl, hmessages, hends (by simp [Action.IsCall])⟩

end ClusterAccess
