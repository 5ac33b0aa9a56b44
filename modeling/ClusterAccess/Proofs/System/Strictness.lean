import ClusterAccess.Proofs.System.Caching
import Mathlib.Data.List.Forall2

/-!
A strict gate only takes away. If the reviewer and the factory always give the same answer to the
same question, the calls that any number of requests in a row send through a strict gate are among
those that they send through a selective one, each for the same request and as the same identity.
A request that the strict gate alone keeps from its call is forbidden. The caches of the two runs
have nothing to do with each other, and the control plane may answer anything.
-/

namespace ClusterAccess

variable {σ κ : Type}

def Message.call? : Message → Option (Identity × ClusterCall)
  | .call sender what => some (sender, what)
  | .question _ _ => none

def Conduct.calls (c : Conduct) : List (Identity × ClusterCall) :=
  c.messages.filterMap Message.call?

theorem AuthorizationGate.calls_questions (gate : AuthorizationGate) (gating : Gating)
    (id : Identity) (check : AccessCheck) :
    (gate.questions gating id check).filterMap Message.call? = [] := by
  unfold AuthorizationGate.questions
  split <;> rfl

/-- A gate that is strict stands wherever a selective one does. -/
theorem AuthorizationGate.stands_strict {authDisabled : Bool} {gating : Gating}
    (h : (⟨.selective, authDisabled⟩ : AuthorizationGate).stands gating = true) :
    (⟨.strict, authDisabled⟩ : AuthorizationGate).stands gating = true := by
  simp_all [AuthorizationGate.stands]

/-- One conduct is the other, as far as calls are concerned, unless it is forbidden and sends
none. -/
def Conduct.Strengthens (strict selective : Conduct) : Prop :=
  strict.calls = selective.calls ∨
    strict.calls = [] ∧ ∃ identity verb resource ns reason,
      strict.result = .error (.forbidden identity verb resource ns reason)

theorem Conduct.Strengthens.sublist {strict selective : Conduct}
    (h : strict.Strengthens selective) : strict.calls.Sublist selective.calls := by
  rcases h with hcalls | ⟨hcalls, -⟩
  · rw [hcalls]
  · rw [hcalls]
    exact List.nil_sublist _

namespace SteadyAnswers

variable {answers : SteadyAnswers} {gate : AuthorizationGate} {gating : Gating} {id : Identity}
  {check : AccessCheck}

theorem passes_of_not_stands (h : gate.stands gating = false) :
    answers.passes gate gating id check = .ok () := by
  simp [passes, h]

/-- Two gates that both stand judge alike. -/
theorem passes_congr {other : AuthorizationGate} (h : gate.stands gating = true)
    (hother : other.stands gating = true) :
    answers.passes gate gating id check = answers.passes other gating id check := by
  simp [passes, h, hother]

theorem exists_forbidden_of_passes {f : Fault}
    (h : answers.passes gate gating id check = .error f) :
    ∃ reason, f = .forbidden id.display check.verb check.resourceLabel check.ns reason := by
  unfold passes at h
  have hresult : ∀ decision, Decision.toResult id check decision = .error f →
      ∃ reason, f = .forbidden id.display check.verb check.resourceLabel check.ns reason := by
    intro decision hdenied
    cases decision with
    | allow => cases hdenied
    | deny reason => exact ⟨reason, (Except.error.inj hdenied).symm⟩
  split at h
  · split at h
    · exact hresult _ h
    · exact hresult _ h
  · cases h

def callsOf (answers : SteadyAnswers) (ctx : RequestContext) (plan : Plan) :
    List (Identity × ClusterCall) :=
  match answers.obtains plan.family (ctx.identityFor plan.attribution) with
  | .error _ => []
  | .ok sender => [(sender, plan.call)]

theorem calls_conduct_of_cancelled {ctx : RequestContext} (plan : Plan)
    (h : answers.cancelled ctx.token = true) : (answers.conduct gate ctx plan).calls = [] := by
  simp [conduct, h, Conduct.calls]

theorem calls_conduct_of_passes {ctx : RequestContext} {plan : Plan}
    (hactive : answers.cancelled ctx.token = false)
    (h : answers.passes gate plan.gating ctx.identity plan.check = .ok ()) :
    (answers.conduct gate ctx plan).calls = answers.callsOf ctx plan := by
  have hquestions := gate.calls_questions plan.gating ctx.identity plan.check
  unfold conduct callsOf Conduct.calls
  simp only [hactive, h, Bool.false_eq_true, if_false]
  cases answers.obtains plan.family (ctx.identityFor plan.attribution) with
  | error f => exact hquestions
  | ok sender =>
      rw [List.filterMap_append, hquestions]
      rfl

theorem conduct_of_denied {ctx : RequestContext} {plan : Plan} {f : Fault}
    (hactive : answers.cancelled ctx.token = false)
    (h : answers.passes gate plan.gating ctx.identity plan.check = .error f) :
    (answers.conduct gate ctx plan).calls = [] ∧
      (answers.conduct gate ctx plan).result = .error f := by
  have hquestions := gate.calls_questions plan.gating ctx.identity plan.check
  simp only [conduct, hactive, h, Bool.false_eq_true, if_false]
  exact ⟨hquestions, trivial⟩

/-- Whatever the control plane answers behind the one gate or the other, a plan sends the same
call through the strict gate as through the selective one, or is forbidden there. -/
theorem conduct_strengthens (answers : SteadyAnswers) (authDisabled : Bool) (ctx : RequestContext)
    (plan : Plan) (perform : Identity → ClusterCall → Except Fault Json) :
    (answers.conduct ⟨.strict, authDisabled⟩ ctx plan).Strengthens
      ({ answers with perform }.conduct ⟨.selective, authDisabled⟩ ctx plan) := by
  cases hactive : answers.cancelled ctx.token with
  | true =>
      have hselective : ({ answers with perform }.conduct ⟨.selective, authDisabled⟩ ctx
          plan).calls = [] := calls_conduct_of_cancelled plan hactive
      exact .inl ((calls_conduct_of_cancelled plan hactive).trans hselective.symm)
  | false =>
      cases hstrict : answers.passes ⟨.strict, authDisabled⟩ plan.gating ctx.identity
          plan.check with
      | error f =>
          obtain ⟨hcalls, hresult⟩ := conduct_of_denied hactive hstrict
          obtain ⟨reason, rfl⟩ := exists_forbidden_of_passes hstrict
          exact .inr ⟨hcalls, _, _, _, _, reason, hresult⟩
      | ok _ =>
          -- Where the selective gate stands, so does the strict one, which lets the plan through.
          have hpasses : answers.passes ⟨.selective, authDisabled⟩ plan.gating ctx.identity
              plan.check = .ok () := by
            cases hstands : (⟨.selective, authDisabled⟩ : AuthorizationGate).stands plan.gating with
            | false => exact passes_of_not_stands hstands
            | true =>
                rw [passes_congr hstands (AuthorizationGate.stands_strict hstands)]
                exact hstrict
          have hselective : ({ answers with perform }.conduct ⟨.selective, authDisabled⟩ ctx
              plan).calls = answers.callsOf ctx plan := calls_conduct_of_passes hactive hpasses
          exact .inl ((calls_conduct_of_passes hactive hstrict).trans hselective.symm)

theorem conductOf_strengthens (answers : SteadyAnswers) (authDisabled : Bool) (accessor : Accessor)
    (ctx : RequestContext) (perform : Identity → ClusterCall → Except Fault Json) :
    (answers.conductOf ⟨.strict, authDisabled⟩ accessor ctx).Strengthens
      ({ answers with perform }.conductOf ⟨.selective, authDisabled⟩ accessor ctx) := by
  unfold conductOf
  cases accessor.plan with
  | error f => exact .inl rfl
  | ok plan => exact answers.conduct_strengthens authDisabled ctx plan perform

end SteadyAnswers

/-- Two runs of the same calls through the two gates, over caches of their own: each call through
the strict gate is the one through the selective gate, or is forbidden. -/
theorem Collaborators.SteadyButCalls.conducts_strengthen {others : Collaborators σ κ}
    {answers : SteadyAnswers} {w v : World σ κ} (h : others.SteadyButCalls answers)
    (authDisabled : Bool) (calls : List (Accessor × RequestContext))
    (hw : w.registry.Faithful answers.builds) (hv : v.registry.Faithful answers.builds) :
    List.Forall₂ Conduct.Strengthens (conducts ⟨.strict, authDisabled⟩ others calls w)
      (conducts ⟨.selective, authDisabled⟩ others calls v) := by
  induction calls generalizing w v with
  | nil => exact .nil
  | cons call later ih =>
      obtain ⟨accessor, ctx⟩ := call
      obtain ⟨⟨performStrictly, hstrict⟩, hw⟩ := h.access hw ⟨.strict, authDisabled⟩ accessor ctx
      obtain ⟨⟨perform, hselective⟩, hv⟩ := h.access hv ⟨.selective, authDisabled⟩ accessor ctx
      refine .cons ?_ (ih hw hv)
      rw [hstrict, hselective]
      exact { answers with perform := performStrictly }.conductOf_strengthens authDisabled accessor
        ctx perform

theorem sublist_flatMap_calls {strict selective : List Conduct}
    (h : List.Forall₂ Conduct.Strengthens strict selective) :
    (strict.flatMap Conduct.calls).Sublist (selective.flatMap Conduct.calls) := by
  induction h with
  | nil => exact List.Sublist.refl _
  | cons hfirst _ ih =>
      rw [List.flatMap_cons, List.flatMap_cons]
      exact hfirst.sublist.append ih

/-- A reviewer who allows one user, and a control plane that counts its calls. -/
def Collaborators.allowingOnly (user : Identity) : Collaborators Nat Unit where
  cancelled _ _ := false
  review asker _ := pure (.ok (asker = user))
  factory := ClientCache.detached fun _ id => pure (.ok ⟨id, ()⟩)
  perform _ _ count := (.ok (.int count), count + 1)

namespace System

/-- The calls that requests in a row send through a strict gate are a sublist of those that they
send through a selective one. Request by request, they are the same, or the strict gate forbids
the request and nothing is sent for it. -/
theorem strict_gate_only_strengthens {others : Collaborators σ κ} {answers : SteadyAnswers}
    (h : others.SteadyButCalls answers) (authDisabled : Bool) (capacities : CacheCapacities) (s : σ)
    (calls : List (Accessor × RequestContext)) :
    let strict := conducts ⟨.strict, authDisabled⟩ others calls ⟨.empty capacities, s⟩
    let selective := conducts ⟨.selective, authDisabled⟩ others calls ⟨.empty capacities, s⟩
    List.Forall₂ Conduct.Strengthens strict selective ∧
      (strict.flatMap Conduct.calls).Sublist (selective.flatMap Conduct.calls) := by
  have hfaithful : (ClientRegistry.empty capacities : ClientRegistry κ).Faithful answers.builds :=
    ClientRegistry.faithful_empty _ capacities
  have hstrengthens := h.conducts_strengthen authDisabled calls
    (w := ⟨.empty capacities, s⟩) (v := ⟨.empty capacities, s⟩) hfaithful hfaithful
  exact ⟨hstrengthens, sublist_flatMap_calls hstrengthens⟩

/-- Only the strict gate asks about a user who lists pods, and keeps the other user from it. -/
theorem pods_listed_for_one_of_two :
    let call : ClusterCall := ⟨⟨.pods, some "ns1", none⟩, .list {}⟩
    let calls : List (Accessor × RequestContext) :=
      [(.listPods "ns1" none .caller, ⟨⟨"bob"⟩, ⟨0⟩⟩),
        (.listPods "ns1" none .caller, ⟨⟨"alice"⟩, ⟨1⟩⟩)]
    let others := Collaborators.allowingOnly ⟨"alice"⟩
    let strict := conducts ⟨.strict, false⟩ others calls ⟨.empty {}, 0⟩
    let selective := conducts ⟨.selective, false⟩ others calls ⟨.empty {}, 0⟩
    strict.flatMap Conduct.calls = [(⟨"alice"⟩, call)] ∧
      selective.flatMap Conduct.calls = [(⟨"bob"⟩, call), (⟨"alice"⟩, call)] ∧
      List.Forall₂ Conduct.Strengthens strict selective := by
  intro call calls others strict selective
  have hsteady : others.SteadyButCalls
      ⟨fun _ => false, fun asker _ => .ok (asker = ⟨"alice"⟩), fun _ id => .ok id,
        fun _ _ => .ok .null⟩ :=
    ⟨fun _ _ => rfl, fun _ _ _ => rfl, fun _ _ _ _ => rfl, fun _ _ _ _ => .refl⟩
  exact ⟨rfl, rfl, (strict_gate_only_strengthens hsteady false {} 0 calls).1⟩

end System

end ClusterAccess
