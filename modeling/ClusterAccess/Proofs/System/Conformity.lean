import ClusterAccess.Proofs.Request.Question
import ClusterAccess.Proofs.System.Isolation

/-!
What the gate is asked is what is then done, in every interleaving. The one plan of an accessor
call settles its question, its cache, its identity and what is sent, and the question describes
what is sent, for every kind and whatever the caller's arguments are.
-/

namespace ClusterAccess.System

variable {κ : Type} {gate : AuthorizationGate} {capacities : CacheCapacities}
  {accessor : Accessor} {ctx : RequestContext} {plan : Plan}

/-- The check of an accessor describes the call that it sends, the options of the call and the
cache of its client are those of the accessor, and in every reachable state an accessor call has
asked, looked up, built and stored only for its plan, and is sent as its plan says, by a client of
the identity that its attribution names. -/
theorem what_is_asked_is_done (hplan : accessor.plan = .ok plan) (ctx : RequestContext) :
    accessor.Settles plan ∧
      ∀ s : System κ, Reachable gate capacities s →
        ∀ past rest, ⟨.access accessor ctx, past, rest⟩ ∈ s.tasks →
          (∀ e ∈ past, plan.Covers ctx e.action) ∧
          (∀ action, rest.front = .takes action → plan.Covers ctx action) ∧
          ∀ before client call, Task.Sends ⟨.access accessor ctx, past, rest⟩ before client call →
            plan.check.Describes call ∧ client.identity = ctx.identityFor accessor.attribution := by
  have hsettles := Accessor.settles_of_plan hplan
  refine ⟨hsettles, fun s h past rest htask => ?_⟩
  have hsound := h.sound.tasks _ htask
  have hcovers : (∀ e ∈ past, plan.Covers ctx e.action) ∧
      ∀ action, rest.front = .takes action → plan.Covers ctx action :=
    (Accessor.stage_of_plan hplan hsound.path).covers
  refine ⟨hcovers.1, hcovers.2, fun before client call hsends => ?_⟩
  have hcall : call = plan.call := by
    rcases hsends with ⟨answer, after, hpast⟩ | ⟨-, hfront⟩
    · dsimp only at hpast
      exact hcovers.1 ⟨.perform client call, answer⟩ (by simp [hpast])
    · exact hcovers.2 _ hfront
  rw [hcall]
  exact ⟨hsettles.check, hsound.identity_of_sends hsends⟩

/-- The logs of a pod: a strict gate is asked for exactly them before they are read. -/
theorem logs_read_as_reviewed :
    ∃ (s : System Unit) (past : List (Event Unit)) (rest : Script Unit (Except Fault Json))
      (before : List (Event Unit)) (client : Client Unit) (call : ClusterCall) (plan : Plan),
      (Accessor.podLogs "ns1" "web-0" none .service).plan = .ok plan ∧
      Reachable ⟨.strict, false⟩ {} s ∧
      ⟨.access (.podLogs "ns1" "web-0" none .service) ⟨⟨"alice"⟩, ⟨0⟩⟩, past, rest⟩ ∈ s.tasks ∧
      Task.Sends ⟨.access (.podLogs "ns1" "web-0" none .service) ⟨⟨"alice"⟩, ⟨0⟩⟩, past, rest⟩
        before client call ∧
      plan.check = ⟨"get", "", "v1", "pods", some "log", some "ns1", some "web-0"⟩ ∧
      plan.check.Describes call ∧ client.identity = .ambient := by
  obtain ⟨plan, hplan, hcheck⟩ :
      ∃ plan, (Accessor.podLogs "ns1" "web-0" none .service).plan = .ok plan ∧
        plan.check = ⟨"get", "", "v1", "pods", some "log", some "ns1", some "web-0"⟩ :=
    ⟨_, rfl, rfl⟩
  obtain ⟨s, past, rest, before, h, htask, hsends⟩ :=
    exists_sends ⟨.strict, false⟩ {} (.podLogs "ns1" "web-0" none .service) ⟨⟨"alice"⟩, ⟨0⟩⟩ ()
      hplan (fun _ => by decide)
  obtain ⟨-, hruns⟩ := what_is_asked_is_done (κ := Unit) hplan ⟨⟨"alice"⟩, ⟨0⟩⟩
  obtain ⟨hdescribes, hid⟩ := (hruns s h past rest htask).2.2 before _ _ hsends
  exact ⟨s, past, rest, before, _, _, plan, hplan, h, htask, hsends, hcheck, hdescribes, hid⟩

end ClusterAccess.System
