import ClusterAccess.Proofs.Request.Trace
import ClusterAccess.Proofs.System.Isolation

/-!
The gate stands before every gated call, whatever the caches hold. A call is sent only after a
review of its own, asked once about the caller and answered with an allowance. Where the gate
refuses, the call ends at once, and nothing but its token and the reviewer was ever touched.
-/

namespace ClusterAccess

variable {κ σ : Type} {gate : AuthorizationGate} {capacities : CacheCapacities}

def Event.review? : Event κ → Option (Identity × AccessCheck × Except Fault Bool)
  | ⟨.review asker check, answer⟩ => some (asker, check, answer)
  | _ => none

def reviews (past : List (Event κ)) : List (Identity × AccessCheck × Except Fault Bool) :=
  past.filterMap Event.review?

@[simp] theorem reviews_nil : reviews ([] : List (Event κ)) = [] := rfl

@[simp] theorem reviews_checkToken (token : CancellationToken) (cancelled : Bool)
    (past : List (Event κ)) : reviews (⟨.checkToken token, cancelled⟩ :: past) = reviews past := rfl

@[simp] theorem reviews_perform (client : Client κ) (call : ClusterCall)
    (answer : Except Fault Json) (past : List (Event κ)) :
    reviews (⟨.perform client call, answer⟩ :: past) = reviews past := rfl

@[simp] theorem reviews_append (past later : List (Event κ)) :
    reviews (past ++ later) = reviews past ++ reviews later :=
  List.filterMap_append

theorem mem_reviews {past : List (Event κ)} {asker : Identity} {check : AccessCheck}
    {answer : Except Fault Bool} (h : ⟨.review asker check, answer⟩ ∈ past) :
    (asker, check, answer) ∈ reviews past :=
  List.mem_filterMap.mpr ⟨_, h, rfl⟩

/-- The gate was reached and does not allow: the caller has no name, or some review was not
answered with an allowance. -/
def Refused (ctx : RequestContext) (past : List (Event κ)) : Prop :=
  (ctx.identity = .ambient ∧ ⟨.checkToken ctx.token, false⟩ ∈ past) ∨
    ∃ asker check answer, ⟨.review asker check, answer⟩ ∈ past ∧ answer ≠ .ok true

theorem not_refused {ctx : RequestContext} {past : List (Event κ)}
    (hid : ctx.identity ≠ .ambient) (hreviews : ∀ r ∈ reviews past, r.2.2 = .ok true) :
    ¬ Refused ctx past := by
  rintro (⟨hambient, -⟩ | ⟨asker, check, answer, hmem, hanswer⟩)
  · exact hid hambient
  · exact hanswer (hreviews _ (mem_reviews hmem))

namespace Decision

variable {id : Identity} {check : AccessCheck} {answer : Except Fault Bool}

theorem eq_allowance (h : toResult id check (ofReview answer) = .ok ()) : answer = .ok true := by
  rcases answer with f | _ | _
  · simp [ofReview, toResult] at h
  · simp [ofReview, toResult] at h
  · rfl

theorem exists_forbidden (id : Identity) (check : AccessCheck) (h : answer ≠ .ok true) :
    ∃ reason, toResult id check (ofReview answer) =
      .error (.forbidden id.display check.verb check.resourceLabel check.ns reason) := by
  rcases answer with f | _ | _
  · exact ⟨_, rfl⟩
  · exact ⟨_, rfl⟩
  · exact absurd rfl h

end Decision

/-! ### What one call does -/

theorem GateStage.reviews_of_passed {gating : Gating} {id : Identity} {check : AccessCheck}
    {asked : List (Event κ)} (hstands : gate.stands gating = true)
    (h : GateStage gate gating id check asked (.ends (.ok ()))) :
    id ≠ .ambient ∧ reviews asked = [(id, check, .ok true)] := by
  generalize hfront : (.ends (.ok ()) : Front κ (Except Fault Unit)) = front at h
  cases h with
  | «open» hgate => simp [hgate] at hstands
  | anonymous hgate hid => simp [Decision.toResult] at hfront
  | asking hgate hid => cases hfront
  | answered hgate hid answer =>
      obtain rfl := Decision.eq_allowance (Front.ends.inj hfront).symm
      exact ⟨hid, rfl⟩

/-- The gate denies a caller without a name unasked, and others after the one review. -/
theorem GateStage.of_denied {gating : Gating} {id : Identity} {check : AccessCheck}
    {asked : List (Event κ)} {f : Fault}
    (h : GateStage gate gating id check asked (.ends (.error f))) :
    (∃ reason, f = .forbidden id.display check.verb check.resourceLabel check.ns reason) ∧
      (id = .ambient ∧ asked = [] ∨
        id ≠ .ambient ∧ ∃ answer, asked = [⟨.review id check, answer⟩]) := by
  generalize hfront : (.ends (.error f) : Front κ (Except Fault Unit)) = front at h
  cases h with
  | «open» hgate => simp at hfront
  | anonymous hgate hid =>
      obtain rfl := Except.error.inj (Front.ends.inj hfront)
      exact ⟨⟨_, rfl⟩, .inl ⟨hid, rfl⟩⟩
  | asking hgate hid => cases hfront
  | answered hgate hid answer =>
      have hdenied := Front.ends.inj hfront
      have hanswer : answer ≠ .ok true := by
        rintro rfl
        simp [Decision.ofReview, Decision.toResult] at hdenied
      obtain ⟨reason, hreason⟩ := Decision.exists_forbidden id check hanswer
      rw [hreason] at hdenied
      exact ⟨⟨reason, Except.error.inj hdenied⟩, .inr ⟨hid, answer, rfl⟩⟩

theorem ClientStage.reviews_eq_nil {family : Family} {id : Identity} {used : List (Event κ)}
    {front : Front κ (Except Fault (Client κ))} (h : ClientStage family id used front) :
    reviews used = [] := by
  cases h <;> rfl

namespace PlanStage

variable {plan : Plan} {ctx : RequestContext} {past : List (Event κ)}
  {front : Front κ (Except Fault Json)}

/-- A call that has come past the gate was allowed by the one review that it asked for. -/
theorem reviews_of_passed {asked used : List (Event κ)}
    {front : Front κ (Except Fault (Client κ))} (hstands : gate.stands plan.gating = true)
    (hgate : GateStage gate plan.gating ctx.identity plan.check asked (.ends (.ok ())))
    (hclient : ClientStage plan.family (ctx.identityFor plan.attribution) used front) :
    ctx.identity ≠ .ambient ∧ reviews (⟨.checkToken ctx.token, false⟩ :: asked ++ used) =
      [(ctx.identity, plan.check, .ok true)] := by
  obtain ⟨hid, hasked⟩ := hgate.reviews_of_passed hstands
  refine ⟨hid, ?_⟩
  rw [reviews_append, reviews_checkToken, hasked, hclient.reviews_eq_nil, List.append_nil]

theorem reviews_of_perform {client : Client κ} {call : ClusterCall}
    (hstands : gate.stands plan.gating = true)
    (h : PlanStage plan gate ctx past (.takes (.perform client call))) :
    ctx.identity ≠ .ambient ∧ reviews past = [(ctx.identity, plan.check, .ok true)] := by
  cases h with
  | asking hgate => cases hgate
  | obtaining hgate hclient => cases hclient
  | performing hgate hclient => simpa using reviews_of_passed hstands hgate hclient

theorem of_anonymous (hstands : gate.stands plan.gating = true) (hid : ctx.identity = .ambient)
    (h : PlanStage plan gate ctx past front) :
    reviews past = [] ∧ ∀ asker check, front ≠ .takes (.review asker check) := by
  cases h with
  | start => exact ⟨rfl, by simp⟩
  | cancelled => exact ⟨rfl, by simp⟩
  | asking hgate =>
      cases hgate with
      | asking _ hnamed => exact absurd hid hnamed
  | denied hgate =>
      obtain ⟨-, ⟨-, rfl⟩ | ⟨hnamed, -⟩⟩ := hgate.of_denied
      · exact ⟨rfl, by simp⟩
      · exact absurd hid hnamed
  | _ hgate hclient => exact absurd hid (reviews_of_passed hstands hgate hclient).1

theorem of_refused (hstands : gate.stands plan.gating = true) (hrefused : Refused ctx past)
    (h : PlanStage plan gate ctx past front) :
    ∃ reason, front = .ends (.error (.forbidden ctx.identity.display plan.check.verb
      plan.check.resourceLabel plan.check.ns reason)) ∧ ∀ e ∈ past, e.action.Consults := by
  cases h with
  | start => simp [Refused] at hrefused
  | cancelled =>
      obtain ⟨-, htoken⟩ | ⟨asker, check, answer, hreview, -⟩ := hrefused
      · cases List.mem_singleton.mp htoken
      · cases List.mem_singleton.mp hreview
  | asking hgate =>
      cases hgate with
      | asking _ hid => exact absurd hrefused (not_refused hid (by simp))
  | denied hgate =>
      obtain ⟨⟨reason, rfl⟩, hasked⟩ := hgate.of_denied
      refine ⟨reason, rfl, ?_⟩
      obtain ⟨-, rfl⟩ | ⟨-, answer, rfl⟩ := hasked
      · simp [Action.Consults]
      · simp [Action.Consults]
  | _ hgate hclient =>
      -- Past the gate there was one review, an allowance for a caller with a name.
      obtain ⟨hid, hreviews⟩ := reviews_of_passed hstands hgate hclient
      refine absurd hrefused (not_refused hid ?_)
      simp_all

end PlanStage

theorem Gating.run_of_refused {gating : Gating} {id : Identity} {check : AccessCheck}
    (others : Collaborators σ κ) (w : World σ κ) (hstands : gate.stands gating = true)
    (hrefused : id = .ambient ∨ (others.review id check w.surroundings).1 ≠ .ok true) :
    let run := (gating.enforce gate id check).run others w
    (∃ reason, run.result =
      .error (.forbidden id.display check.verb check.resourceLabel check.ns reason)) ∧
      ∀ action ∈ run.actions, action.Consults := by
  rw [Gating.enforce_eq, if_pos hstands]
  by_cases hid : id = .ambient
  · rw [if_pos hid]
    exact ⟨⟨_, rfl⟩, by simp [Script.run]⟩
  · rw [if_neg hid]
    have hanswer := hrefused.resolve_left hid
    exact ⟨Decision.exists_forbidden id check hanswer, by simp [Script.run, Action.Consults]⟩

theorem Plan.run_of_refused {plan : Plan} {ctx : RequestContext} (others : Collaborators σ κ)
    (w : World σ κ) (hstands : gate.stands plan.gating = true)
    (htoken : others.cancelled w.surroundings ctx.token = false)
    (hrefused : ctx.identity = .ambient ∨
      (others.review ctx.identity plan.check w.surroundings).1 ≠ .ok true) :
    let run := (plan.script gate ctx).run.run others w
    (∃ reason, run.result = .error (.forbidden ctx.identity.display plan.check.verb
      plan.check.resourceLabel plan.check.ns reason)) ∧
      ∀ action ∈ run.actions, action.Consults := by
  obtain ⟨⟨reason, hresult⟩, hactions⟩ := Gating.run_of_refused others w hstands hrefused
  have htoken' : w.act others (.checkToken ctx.token) = (false, w) := by
    rw [World.act, htoken]
    rfl
  rw [Plan.script_eq]
  simp only [Script.run, htoken']
  -- The gate's fault is the result of the whole: what would come after it is a `done`.
  rw [Script.run_bind_done (b := .error _) hresult]
  · refine ⟨⟨reason, rfl⟩, fun action haction => ?_⟩
    rcases List.mem_cons.mp haction with rfl | haction
    · trivial
    · exact hactions action haction
  · rfl

namespace System

/-- A gated call is sent only after exactly one review of its own, of the caller and for the
check of the accessor, which allowed it; a caller without a name is not asked about; and a call
that the gate refuses ends as forbidden, in every interleaving, with nothing but its token and
the reviewer touched, so that on its own it leaves every cache as it was. -/
theorem gated_calls_need_their_own_allowance (accessor : Accessor) (ctx : RequestContext)
    (hauth : gate.authDisabled = false)
    (hgated : accessor.listsNamespaces ∨ gate.mode = .strict) :
    (∀ s : System κ, Reachable gate capacities s →
      ∀ past rest, ⟨.access accessor ctx, past, rest⟩ ∈ s.tasks →
        (∀ before client call,
          Task.Sends ⟨.access accessor ctx, past, rest⟩ before client call →
          ∃ plan, accessor.plan = .ok plan ∧ ctx.identity ≠ .ambient ∧
            reviews before = [(ctx.identity, plan.check, .ok true)]) ∧
        (ctx.identity = .ambient →
          reviews past = [] ∧ ∀ asker check, rest.front ≠ .takes (.review asker check)) ∧
        (Refused ctx past → ∃ plan reason, accessor.plan = .ok plan ∧
          rest = .done (.error (.forbidden ctx.identity.display plan.check.verb
            plan.check.resourceLabel plan.check.ns reason)) ∧
          ∀ e ∈ past, e.action.Consults)) ∧
      ∀ (σ : Type) (others : Collaborators σ κ) (w : World σ κ) (plan : Plan),
        accessor.plan = .ok plan → others.cancelled w.surroundings ctx.token = false →
        ctx.identity = .ambient ∨
          (others.review ctx.identity plan.check w.surroundings).1 ≠ .ok true →
        let run := (accessor.script gate ctx).run others w
        (∃ reason, run.result = .error (.forbidden ctx.identity.display plan.check.verb
          plan.check.resourceLabel plan.check.ns reason)) ∧
          run.world.registry = w.registry ∧ ∀ action ∈ run.actions, action.Consults := by
  refine ⟨fun s h past rest htask => ?_, fun σ others w plan hplan htoken hrefused => ?_⟩
  · have hsound := h.sound.tasks _ htask
    refine ⟨fun before client call hsends => ?_, fun hid => ?_, fun hrefused => ?_⟩
    · obtain ⟨plan, hplan, hstage, -⟩ := hsound.stage_of_sends hsends
      exact ⟨plan, hplan,
        hstage.reviews_of_perform ((Accessor.stands_of_plan hauth hplan).mpr hgated)⟩
    · rcases Accessor.stage_of_path hsound.path with ⟨f, -, hpast, hfront⟩ | ⟨plan, hplan, hstage⟩
      · dsimp only at hpast
        rw [hpast, hfront]
        exact ⟨rfl, by simp⟩
      · exact hstage.of_anonymous ((Accessor.stands_of_plan hauth hplan).mpr hgated) hid
    · rcases Accessor.stage_of_path hsound.path with ⟨f, -, hpast, -⟩ | ⟨plan, hplan, hstage⟩
      · dsimp only at hpast
        simp [Refused, hpast] at hrefused
      · obtain ⟨reason, hfront, hconsults⟩ :=
          hstage.of_refused ((Accessor.stands_of_plan hauth hplan).mpr hgated) hrefused
        exact ⟨plan, reason, hplan, Script.eq_done_of_front hfront, hconsults⟩
  · have hstands := (Accessor.stands_of_plan hauth hplan).mpr hgated
    obtain ⟨hresult, hconsults⟩ := Plan.run_of_refused others w hstands htoken hrefused
    rw [Accessor.script_of_plan gate ctx hplan]
    exact ⟨hresult, Script.registry_run hconsults, hconsults⟩

/-- A strict gate and a user who lists pods: sent after the review, or refused by it. -/
theorem pods_listed_after_their_review :
    (∃ (s : System Unit) (past : List (Event Unit)) (rest : Script Unit (Except Fault Json))
      (before : List (Event Unit)) (client : Client Unit) (call : ClusterCall) (plan : Plan),
      Reachable ⟨.strict, false⟩ {} s ∧
      ⟨.access (.listPods "ns1" none .service) ⟨⟨"alice"⟩, ⟨0⟩⟩, past, rest⟩ ∈ s.tasks ∧
      Task.Sends ⟨.access (.listPods "ns1" none .service) ⟨⟨"alice"⟩, ⟨0⟩⟩, past, rest⟩ before
        client call ∧
      (Accessor.listPods "ns1" none .service).plan = .ok plan ∧
      reviews before = [(⟨"alice"⟩, plan.check, .ok true)]) ∧
    ∃ reason, (((Accessor.listPods "ns1" none .service).script ⟨.strict, false⟩
      ⟨⟨"alice"⟩, ⟨0⟩⟩).run (Answers.collaborators { review := .ok false })
        (⟨.empty {}, ()⟩ : World Unit Unit)).result =
      .error (.forbidden "alice" "list" "pods" (some "ns1") reason) := by
  have hauth : (⟨.strict, false⟩ : AuthorizationGate).authDisabled = false := rfl
  obtain ⟨hinterleaved, halone⟩ := gated_calls_need_their_own_allowance (κ := Unit)
    (.listPods "ns1" none .service) ⟨⟨"alice"⟩, ⟨0⟩⟩ hauth (.inr rfl)
  obtain ⟨s, past, rest, before, h, htask, hsends⟩ :=
    exists_sends ⟨.strict, false⟩ {} (.listPods "ns1" none .service) ⟨⟨"alice"⟩, ⟨0⟩⟩ () rfl
      (by decide)
  obtain ⟨plan, hplan, -, hreviews⟩ := (hinterleaved s h past rest htask).1 _ _ _ hsends
  refine ⟨⟨s, past, rest, before, _, _, plan, h, htask, hsends, hplan, hreviews⟩, ?_⟩
  exact (halone Unit _ ⟨.empty {}, ()⟩ _ rfl rfl (.inr (by rintro ⟨⟩))).1

end System

end ClusterAccess
