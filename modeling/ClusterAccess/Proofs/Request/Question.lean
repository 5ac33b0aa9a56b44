import ClusterAccess.Proofs.Request.Stage

/-!
What a plan asks of the gate and what it then does. The check of every accessor describes the call
that the accessor makes, down to the name and the namespace, so nobody is allowed one thing and
does another. The options that the caller does not choose are fixed for each accessor, and every
action of a call is for its plan.
-/

namespace ClusterAccess

variable {κ : Type} {gate : AuthorizationGate}

/-! ### Checks and calls -/

/-- The check asks for exactly this call. -/
structure AccessCheck.Describes (check : AccessCheck) (call : ClusterCall) : Prop where
  verb : check.verb = call.operation.reviewedVerb
  subresource : check.subresource = call.operation.subresource
  group : check.group = call.target.kind.group
  version : check.version = call.target.kind.version
  resource : check.resource = call.target.kind.plural
  ns : check.ns = call.target.ns
  name : check.name = call.target.name
  name_isSome : check.name.isSome = call.operation.onObject
  ns_isSome : check.ns.isSome = call.target.kind.namespaced

/-! ### Accessors -/

namespace Accessor

def reading : Accessor → Json → Json
  | defaultStorageClass, classes => (pickDefaultClass classes).getD .null
  | _, answer => answer

variable {accessor : Accessor} {plan : Plan}

/-- What a plan settles. Its call is the accessor's operation on the accessor's target, with the
arguments of the caller, and its check describes this call. What is left to the accessor, and not to
the caller, is settled by the kind of the accessor alone. -/
structure Settles (accessor : Accessor) (plan : Plan) : Prop where
  check : plan.check.Describes plan.call
  call : plan.call = ⟨accessor.target, accessor.operation⟩
  family : plan.family = accessor.family
  attribution : plan.attribution = accessor.attribution
  propagation : ∀ propagation, plan.call.operation = .delete propagation →
    propagation = accessor.propagation?.getD .foreground
  strategy : ∀ body strategy, plan.call.operation = .patch body strategy →
    strategy = accessor.patchStrategy
  payload : ∀ answer, plan.payload.of answer = accessor.reading answer

theorem settles_of_plan (h : accessor.plan = .ok plan) : accessor.Settles plan := by
  obtain ⟨hscoped, hname⟩ := target_of_plan h
  obtain ⟨-, rfl⟩ := plan_eq_ok.mp h
  refine ⟨⟨rfl, rfl, rfl, rfl, rfl, rfl, rfl, hname, hscoped⟩, rfl, rfl, rfl, ?_, ?_, ?_⟩
  · intro propagation hdelete
    cases accessor <;> cases hdelete <;> rfl
  · intro body strategy hpatch
    cases accessor <;> cases hpatch <;> rfl
  · intro answer
    cases accessor <;> rfl

end Accessor

/-! ### Actions -/

/-- The action is for the plan: it concerns the check, the cache, the identity and the call of the
plan, and the caller's own token. -/
def Plan.Covers (plan : Plan) (ctx : RequestContext) : Action κ → Prop
  | .checkToken token => token = ctx.token
  | .review asker check => asker = ctx.identity ∧ check = plan.check
  | .lookup family id => family = plan.family ∧ id = ctx.identityFor plan.attribution
  | .build family id => family = plan.family ∧ id = ctx.identityFor plan.attribution
  | .store family id client =>
    family = plan.family ∧ id = ctx.identityFor plan.attribution ∧ client.identity = id
  | .perform _ call => call = plan.call

variable {plan : Plan} {ctx : RequestContext} {past : List (Event κ)}

theorem GateStage.covers {front : Front κ (Except Fault Unit)}
    (h : GateStage gate plan.gating ctx.identity plan.check past front) :
    (∀ e ∈ past, plan.Covers ctx e.action) ∧
      ∀ action, front = .takes action → plan.Covers ctx action := by
  cases h <;> simp [Plan.Covers]

theorem ClientStage.covers {front : Front κ (Except Fault (Client κ))}
    (h : ClientStage plan.family (ctx.identityFor plan.attribution) past front) :
    (∀ e ∈ past, plan.Covers ctx e.action) ∧
      ∀ action, front = .takes action → plan.Covers ctx action := by
  cases h <;> simp_all [Plan.Covers]

theorem covers_of_passed {asked used : List (Event κ)} {passed : Front κ (Except Fault Unit)}
    {front : Front κ (Except Fault (Client κ))}
    (hgate : GateStage gate plan.gating ctx.identity plan.check asked passed)
    (hclient : ClientStage plan.family (ctx.identityFor plan.attribution) used front) :
    ∀ e ∈ (⟨.checkToken ctx.token, false⟩ :: asked ++ used : List (Event κ)),
      plan.Covers ctx e.action := by
  rw [List.forall_mem_append, List.forall_mem_cons]
  exact ⟨⟨rfl, hgate.covers.1⟩, hclient.covers.1⟩

theorem PlanStage.covers {front : Front κ (Except Fault Json)}
    (h : PlanStage plan gate ctx past front) :
    (∀ e ∈ past, plan.Covers ctx e.action) ∧
      ∀ action, front = .takes action → plan.Covers ctx action := by
  cases h with
  | start => exact ⟨by simp, by rintro _ ⟨⟩; rfl⟩
  | cancelled => exact ⟨List.forall_mem_singleton.mpr rfl, by simp⟩
  | asking hgate =>
      refine ⟨List.forall_mem_cons.mpr ⟨rfl, hgate.covers.1⟩, ?_⟩
      rintro _ ⟨⟩
      exact hgate.covers.2 _ rfl
  | denied hgate => exact ⟨List.forall_mem_cons.mpr ⟨rfl, hgate.covers.1⟩, by simp⟩
  | obtaining hgate hclient =>
      refine ⟨covers_of_passed hgate hclient, ?_⟩
      rintro _ ⟨⟩
      exact hclient.covers.2 _ rfl
  | unobtained hgate hclient => exact ⟨covers_of_passed hgate hclient, by simp⟩
  | obtained hgate hclient =>
      exact ⟨covers_of_passed hgate hclient, by rintro _ ⟨⟩; rfl⟩
  | cancelledLate hgate hclient =>
      refine ⟨List.forall_mem_append.mpr ⟨covers_of_passed hgate hclient, ?_⟩, by simp⟩
      exact List.forall_mem_singleton.mpr rfl
  | performing hgate hclient =>
      refine ⟨List.forall_mem_append.mpr ⟨covers_of_passed hgate hclient, ?_⟩, ?_⟩
      · exact List.forall_mem_singleton.mpr rfl
      · rintro _ ⟨⟩
        rfl
  | performed hgate hclient answer =>
      refine ⟨List.forall_mem_append.mpr ⟨covers_of_passed hgate hclient, ?_⟩, by simp⟩
      exact List.forall_mem_cons.mpr ⟨rfl, List.forall_mem_singleton.mpr rfl⟩

end ClusterAccess
