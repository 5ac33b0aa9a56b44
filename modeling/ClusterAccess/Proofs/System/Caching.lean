import ClusterAccess.Proofs.Request.Conduct
import ClusterAccess.Proofs.System.Interleaving

/-!
Caches make no difference that anybody could see. If those whom the service turns to always give
the same answer to the same question, each of any number of calls in a row has the result, asks
the questions and sends the call that it would alone, with nothing cached. So it matters neither
who called before, nor in what order, nor how much room the caches have.
-/

namespace ClusterAccess

variable {σ κ : Type}

def conducts (gate : AuthorizationGate) (others : Collaborators σ κ) :
    List (Accessor × RequestContext) → World σ κ → List Conduct
  | [], _ => []
  | (accessor, ctx) :: later, w =>
    let run := (accessor.script gate ctx).run others w
    run.conduct :: conducts gate others later run.world

theorem Collaborators.Steady.conducts_eq {others : Collaborators σ κ} {answers : SteadyAnswers}
    {w : World σ κ} (h : others.Steady answers) (gate : AuthorizationGate)
    (calls : List (Accessor × RequestContext)) (hw : w.registry.Faithful answers.builds) :
    conducts gate others calls w =
      calls.map fun (accessor, ctx) => answers.conductOf gate accessor ctx := by
  induction calls generalizing w with
  | nil => rfl
  | cons call later ih =>
      obtain ⟨accessor, ctx⟩ := call
      obtain ⟨hconduct, hend⟩ := h.access hw gate accessor ctx
      rw [conducts, List.map_cons, hconduct, ih hend]

namespace System

/-- Over caches of any capacities, each of any calls in a row conducts itself exactly as it does
alone over empty caches, which is as the answers of the others say. -/
theorem caching_is_invisible {others : Collaborators σ κ} {answers : SteadyAnswers}
    (h : others.Steady answers) (gate : AuthorizationGate) (capacities : CacheCapacities) (s : σ)
    (calls : List (Accessor × RequestContext)) (capacitiesAlone : CacheCapacities) (t : σ) :
    (conducts gate others calls ⟨.empty capacities, s⟩ =
      calls.map fun (accessor, ctx) =>
        ((accessor.script gate ctx).run others ⟨.empty capacitiesAlone, t⟩).conduct) ∧
      conducts gate others calls ⟨.empty capacities, s⟩ =
        calls.map fun (accessor, ctx) => answers.conductOf gate accessor ctx := by
  have hconducts := h.conducts_eq gate calls
    (w := ⟨.empty capacities, s⟩) (ClientRegistry.faithful_empty _ capacities)
  refine ⟨hconducts.trans (List.map_congr_left fun call _ => ?_), hconducts⟩
  obtain ⟨accessor, ctx⟩ := call
  exact (h.access (ClientRegistry.faithful_empty _ capacitiesAlone) gate accessor ctx).1.symm

theorem steady_obliging (handle : κ) :
    (Collaborators.obliging handle).Steady
      ⟨fun _ => false, fun _ _ => .ok true, fun _ id => .ok id, fun _ _ => .ok .null⟩ where
  cancelled _ _ := rfl
  review _ _ _ := rfl
  builds _ _ _ _ := rfl
  reenters _ _ _ _ := .refl
  perform _ _ _ := rfl

/-- Two users who drive each other out of a cache with room for one of them are served as though
they were alone. -/
theorem pods_listed_in_turn :
    let check : AccessCheck := ⟨"list", "", "v1", "pods", none, some "ns1", none⟩
    let call : ClusterCall := ⟨⟨.pods, some "ns1", none⟩, .list {}⟩
    conducts ⟨.strict, false⟩ (.obliging ())
        [(.listPods "ns1" none .caller, ⟨⟨"alice"⟩, ⟨0⟩⟩),
          (.listPods "ns1" none .caller, ⟨⟨"bob"⟩, ⟨1⟩⟩),
          (.listPods "ns1" none .caller, ⟨⟨"alice"⟩, ⟨2⟩⟩)] ⟨.empty ⟨1, 1, 1⟩, ()⟩ =
      [⟨.ok .null, [.question ⟨"alice"⟩ check, .call ⟨"alice"⟩ call]⟩,
        ⟨.ok .null, [.question ⟨"bob"⟩ check, .call ⟨"bob"⟩ call]⟩,
        ⟨.ok .null, [.question ⟨"alice"⟩ check, .call ⟨"alice"⟩ call]⟩] := by
  intro check call
  rw [(caching_is_invisible (steady_obliging ()) _ _ _ _ {} ()).1]
  rfl

end System

end ClusterAccess
