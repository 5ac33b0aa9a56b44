import ClusterAccess.Proofs.System.Admission

/-!
Whose privileges a call uses. The service acts as itself for a caller only where it was told to,
or where the caller has no name and the gate does not stand in the way. The empty name is at once
the name of the service and that of nobody in particular, so the gate alone tells the two apart.
-/

namespace ClusterAccess

variable {κ : Type} {gate : AuthorizationGate} {capacities : CacheCapacities}
  {accessor : Accessor} {ctx : RequestContext}

def PassesNameless (gate : AuthorizationGate) (accessor : Accessor) (ctx : RequestContext) : Prop :=
  ctx.identity = .ambient ∧ gate.mode = .selective ∧ accessor.listsNamespaces = false

theorem Task.Sound.nameless_of_sends {past : List (Event κ)} {rest : Script κ (Except Fault Json)}
    {before : List (Event κ)} {client : Client κ} {call : ClusterCall}
    (hauth : gate.authDisabled = false)
    (h : Task.Sound gate ⟨.access accessor ctx, past, rest⟩)
    (hsends : Task.Sends ⟨.access accessor ctx, past, rest⟩ before client call)
    (hid : ctx.identity = .ambient) : PassesNameless gate accessor ctx := by
  obtain ⟨plan, hplan, hstage, -⟩ := h.stage_of_sends hsends
  have hgated : ¬ (accessor.listsNamespaces ∨ gate.mode = .strict) := by
    intro hgated
    have hstands := (Accessor.stands_of_plan hauth hplan).mpr hgated
    exact (hstage.reviews_of_perform hstands).1 hid
  rw [not_or] at hgated
  refine ⟨hid, ?_, by simpa using hgated.1⟩
  cases hmode : gate.mode with
  | selective => rfl
  | strict => exact absurd hmode hgated.2

/-- Where no gate stands before a nameless caller, what the accessor plans is sent. -/
theorem PassesNameless.open_gate {plan : Plan} (hauth : gate.authDisabled = false)
    (h : PassesNameless gate accessor ctx) (hplan : accessor.plan = .ok plan) :
    gate.stands plan.gating = false := by
  obtain ⟨-, hmode, hlists⟩ := h
  rw [Bool.eq_false_iff, ne_eq, Accessor.stands_of_plan hauth hplan]
  simp [hmode, hlists]

namespace System

/-- A call is sent as the service only if its attribution says so or nobody in particular calls
past a gate that does not stand before it. Such a caller then does act as the service. -/
theorem service_identity_unless_nameless (hauth : gate.authDisabled = false)
    (accessor : Accessor) (ctx : RequestContext) :
    (∀ s : System κ, Reachable gate capacities s →
      ∀ past rest, ⟨.access accessor ctx, past, rest⟩ ∈ s.tasks →
        ∀ before client call, Task.Sends ⟨.access accessor ctx, past, rest⟩ before client call →
          client.identity = .ambient →
          accessor.attribution = .service ∨ PassesNameless gate accessor ctx) ∧
      ∀ (handle : κ) (plan : Plan), accessor.plan = .ok plan → PassesNameless gate accessor ctx →
        ∃ s past rest before, Reachable gate capacities s ∧
          ⟨.access accessor ctx, past, rest⟩ ∈ s.tasks ∧
          Task.Sends ⟨.access accessor ctx, past, rest⟩ before ⟨.ambient, handle⟩ plan.call := by
  refine ⟨fun s h past rest htask before client call hsends hambient => ?_,
    fun handle plan hplan hnameless => ?_⟩
  · have hsound := h.sound.tasks _ htask
    have hid := hsound.identity_of_sends hsends
    cases hattribution : accessor.attribution with
    | service => exact .inl rfl
    | caller =>
        rw [hattribution, hambient] at hid
        exact .inr (hsound.nameless_of_sends hauth hsends hid.symm)
  · have hgate := hnameless.open_gate hauth hplan
    have hid : ctx.identityFor plan.attribution = .ambient := by
      cases plan.attribution with
      | caller => exact hnameless.1
      | service => rfl
    rw [← hid]
    exact exists_sends gate capacities accessor ctx handle hplan (by simp [hgate])

/-- Under a selective gate, pods are listed as the service for a caller without a name. -/
theorem pods_listed_as_service_for_nobody :
    ∃ (s : System Unit) (past : List (Event Unit)) (rest : Script Unit (Except Fault Json))
      (before : List (Event Unit)) (call : ClusterCall),
      Reachable ⟨.selective, false⟩ {} s ∧
      ⟨.access (.listPods "ns1" none .caller) ⟨.ambient, ⟨0⟩⟩, past, rest⟩ ∈ s.tasks ∧
      Task.Sends ⟨.access (.listPods "ns1" none .caller) ⟨.ambient, ⟨0⟩⟩, past, rest⟩ before
        ⟨.ambient, ()⟩ call ∧
      (Attribution.caller = .service ∨
        PassesNameless ⟨.selective, false⟩ (.listPods "ns1" none .caller) ⟨.ambient, ⟨0⟩⟩) := by
  have hauth : (⟨.selective, false⟩ : AuthorizationGate).authDisabled = false := rfl
  obtain ⟨honly, hdoes⟩ := service_identity_unless_nameless (κ := Unit) hauth
    (.listPods "ns1" none .caller) ⟨.ambient, ⟨0⟩⟩
  obtain ⟨s, past, rest, before, h, htask, hsends⟩ := hdoes () _ rfl ⟨rfl, rfl, rfl⟩
  exact ⟨s, past, rest, before, _, h, htask, hsends, honly s h past rest htask _ _ _ hsends rfl⟩

/-- It takes no attribution to the service for a call to be sent as the service. -/
theorem service_identity_without_service_attribution :
    ¬ ∀ (gate : AuthorizationGate) (capacities : CacheCapacities) (s : System Unit),
      gate.authDisabled = false → Reachable gate capacities s →
      ∀ accessor ctx past rest, ⟨.access accessor ctx, past, rest⟩ ∈ s.tasks →
        ∀ before client call, Task.Sends ⟨.access accessor ctx, past, rest⟩ before client call →
          client.identity = .ambient → accessor.attribution = .service := by
  intro hclaim
  obtain ⟨s, past, rest, before, h, htask, hsends⟩ :=
    exists_sends ⟨.selective, false⟩ {} (.listPods "ns1" none .caller) ⟨.ambient, ⟨0⟩⟩ () rfl
      (by decide)
  have hattribution := hclaim _ _ s rfl h _ _ past rest htask before _ _ hsends rfl
  cases hattribution

end System

end ClusterAccess
