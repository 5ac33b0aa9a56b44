import ClusterAccess.Proofs.System.Interleaving

/-!
Nobody acts through a client of somebody else. In every state that any interleaving can reach,
the caches keep each client for the identity it acts as, a request for a client ends with one of
the identity asked for, and an accessor call is sent as the identity that its context and its
attribution name. What a factory builds does not matter, since only a client bound to the
identity asked for is ever stored.
-/

namespace ClusterAccess

variable {κ : Type} {gate : AuthorizationGate} {capacities : CacheCapacities}

def Event.Serves : Event κ → Identity → Client κ → Prop
  | ⟨.lookup _ id, found⟩, asked, client => id = asked ∧ found = some client
  | ⟨.store _ id _, kept⟩, asked, client => id = asked ∧ kept = client
  | _, _, _ => False

/-! ### What one script does -/

theorem ClientStage.exists_serves {family : Family} {id : Identity} {used : List (Event κ)}
    {client : Client κ} (h : ClientStage family id used (.ends (.ok client))) :
    ∃ e ∈ used, e.Serves id client := by
  cases h with
  | hit => exact ⟨_, List.mem_singleton.mpr rfl, rfl, rfl⟩
  | stored built kept hid => exact ⟨⟨.store family id built, client⟩, by simp, rfl, rfl⟩

theorem PlanStage.exists_serves {plan : Plan} {ctx : RequestContext} {call : ClusterCall}
    {past : List (Event κ)} {client : Client κ}
    (h : PlanStage plan gate ctx past (.takes (.perform client call))) :
    ∃ e ∈ past, e.Serves (ctx.identityFor plan.attribution) client := by
  cases h with
  | asking hgate => cases hgate
  | obtaining hgate hclient => cases hclient
  | performing hgate hclient =>
      obtain ⟨e, he, hserves⟩ := hclient.exists_serves
      exact ⟨e, by simp [he], hserves⟩

/-- Whatever its job is, a task stores a client only for the identity that it acts as. -/
theorem Job.identity_of_store {job : Job} {past : List (Event κ)} {family : Family}
    {id : Identity} {client : Client κ}
    {next : (Action.store family id client).Reply → Script κ (job.Result κ)}
    (h : (job.script gate).Path past (.act (.store family id client) next)) :
    client.identity = id := by
  cases job with
  | access accessor ctx =>
      rcases Accessor.stage_of_path h with ⟨f, -, -, hfront⟩ | ⟨plan, -, hstage⟩
      · simp [Script.front] at hfront
      · exact hstage.built_of_store.1
  | client other key =>
      exact ((along_obtain other key).of_path h).front.built_of_store.1

/-! ### What one step keeps -/

theorem ClientRegistry.Bound.act {r : ClientRegistry κ} (h : r.Bound) (answers : Answers κ)
    {action : Action κ}
    (hstore : ∀ family id client, action = .store family id client → client.identity = id) :
    (r.act answers action).2.Bound ∧
      ∀ id client, Event.Serves ⟨action, (r.act answers action).1⟩ id client →
        client.identity = id := by
  cases action with
  | lookup family id =>
      refine ⟨h.setCache ((h family).lookup id) family, ?_⟩
      rintro _ client ⟨rfl, hfound⟩
      exact (h family).identity_of_lookup hfound
  | store family id built =>
      have hid := hstore family id built rfl
      refine ⟨h.setCache ((h family).store hid) family, ?_⟩
      rintro _ client ⟨rfl, rfl⟩
      exact (h family).identity_of_store hid
  | build family id => exact ⟨by simpa using h, by rintro _ _ ⟨⟩⟩
  | _ => exact ⟨h, by rintro _ _ ⟨⟩⟩

/-- The task has come along a path of its script, and was served its own identities. -/
structure Task.Sound (gate : AuthorizationGate) (task : Task κ) : Prop where
  path : (task.job.script gate).Path task.past task.rest
  served : ∀ e ∈ task.past, ∀ id client, e.Serves id client → client.identity = id

section

variable {accessor : Accessor} {ctx : RequestContext} {past before : List (Event κ)}
  {rest : Script κ (Except Fault Json)} {client : Client κ} {call : ClusterCall}

/-- A call that is sent is the call of a plan, after the stages that come before it. -/
theorem Task.Sound.stage_of_sends (h : Task.Sound gate ⟨.access accessor ctx, past, rest⟩)
    (hsends : Task.Sends ⟨.access accessor ctx, past, rest⟩ before client call) :
    ∃ plan, accessor.plan = .ok plan ∧
      PlanStage plan gate ctx before (.takes (.perform client call)) ∧ ∀ e ∈ before, e ∈ past := by
  have hpath :
      (∃ next, (accessor.script gate ctx).Path before (.act (.perform client call) next)) ∧
        ∀ e ∈ before, e ∈ past := by
    rcases hsends with ⟨answer, after, hpast⟩ | ⟨hpast, hfront⟩
    · dsimp only at hpast
      subst hpast
      exact ⟨h.path.before, fun e he => List.mem_append_left _ he⟩
    · dsimp only at hpast
      subst hpast
      obtain ⟨next, hrest⟩ := Script.eq_act_of_front hfront
      exact ⟨⟨next, hrest ▸ h.path⟩, fun e he => he⟩
  obtain ⟨⟨next, hpath⟩, hbefore⟩ := hpath
  rcases Accessor.stage_of_path hpath with ⟨f, -, -, hfront⟩ | ⟨plan, hplan, hstage⟩
  · simp [Script.front] at hfront
  · exact ⟨plan, hplan, hstage, hbefore⟩

theorem Task.Sound.identity_of_sends (h : Task.Sound gate ⟨.access accessor ctx, past, rest⟩)
    (hsends : Task.Sends ⟨.access accessor ctx, past, rest⟩ before client call) :
    client.identity = ctx.identityFor accessor.attribution := by
  obtain ⟨plan, hplan, hstage, hbefore⟩ := h.stage_of_sends hsends
  obtain ⟨e, he, hserves⟩ := hstage.exists_serves
  rw [← (Accessor.attribution_and_gating_of_plan hplan).1]
  exact h.served e (hbefore e he) _ client hserves

end

namespace System

structure Sound (gate : AuthorizationGate) (s : System κ) : Prop where
  registry : s.registry.Bound
  tasks : ∀ task ∈ s.tasks, task.Sound gate

theorem Step.sound {s s' : System κ} (hstep : Step gate s s') (h : s.Sound gate) :
    s'.Sound gate := by
  cases hstep with
  | start job =>
      refine ⟨h.registry, fun task htask => ?_⟩
      rcases List.mem_cons.mp htask with rfl | htask
      · exact ⟨.start, by simp⟩
      · exact h.tasks task htask
  | clear family =>
      exact ⟨h.registry.setCache (ClientCache.bound_clear _) family, h.tasks⟩
  | @act registry before after job past action next answers =>
      -- Only this task moves on, and all that it does to the caches is this action.
      have htask := h.tasks ⟨job, past, .act action next⟩ (by simp)
      have hstore : ∀ family id client, action = .store family id client →
          client.identity = id := by
        rintro family id client rfl
        exact Job.identity_of_store htask.path
      obtain ⟨hregistry, hserves⟩ := h.registry.act answers hstore
      refine ⟨hregistry, fun other hother => ?_⟩
      simp only [List.mem_append, List.mem_cons] at hother
      rcases hother with hother | rfl | hother
      · exact h.tasks other (by simp [hother])
      · refine ⟨htask.path.step _, fun e he => ?_⟩
        rcases List.mem_append.mp he with he | he
        · exact htask.served e he
        · obtain rfl := List.mem_singleton.mp he
          exact hserves
      · exact h.tasks other (by simp [hother])

theorem Reachable.sound {s : System κ} (h : Reachable gate capacities s) : s.Sound gate := by
  induction h with
  | fresh => exact ⟨ClientRegistry.bound_empty capacities, by simp⟩
  | step _ hstep ih => exact hstep.sound ih

/-- In every reachable state every cached client acts as the identity it is kept for, every
request for a client has ended with one of its identity, and every accessor call is sent as
exactly the identity that its context has for its attribution. -/
theorem clients_never_cross_identities {s : System κ} (h : Reachable gate capacities s) :
    (∀ family, ∀ e ∈ (s.registry.cache family).entries, e.client.identity = e.key) ∧
      (∀ family id past client,
        ⟨.client family id, past, .done (.ok client)⟩ ∈ s.tasks → client.identity = id) ∧
      (∀ task ∈ s.tasks, ∀ e ∈ task.past, ∀ id client, e.Serves id client →
        client.identity = id) ∧
      ∀ accessor ctx past rest, ⟨.access accessor ctx, past, rest⟩ ∈ s.tasks →
        ∀ before client call, Task.Sends ⟨.access accessor ctx, past, rest⟩ before client call →
          client.identity = ctx.identityFor accessor.attribution := by
  have hsound := h.sound
  refine ⟨hsound.registry, ?_, fun task htask => (hsound.tasks task htask).served, ?_⟩
  · intro family id past client htask
    have htask := hsound.tasks _ htask
    obtain ⟨e, he, hserves⟩ := ((along_obtain family id).of_path htask.path).front.exists_serves
    exact htask.served e he id client hserves
  · intro accessor ctx past rest htask before client call hsends
    exact (hsound.tasks _ htask).identity_of_sends hsends

/-- A user whose pods are listed in a system that can be reached: they are listed as the user. -/
theorem pods_listed_as_their_caller :
    ∃ (s : System Unit) (past : List (Event Unit)) (rest : Script Unit (Except Fault Json))
      (before : List (Event Unit)) (client : Client Unit) (call : ClusterCall),
      Reachable ⟨.strict, false⟩ {} s ∧
      ⟨.access (.listPods "ns1" none .caller) ⟨⟨"alice"⟩, ⟨0⟩⟩, past, rest⟩ ∈ s.tasks ∧
      Task.Sends ⟨.access (.listPods "ns1" none .caller) ⟨⟨"alice"⟩, ⟨0⟩⟩, past, rest⟩ before
        client call ∧
      client.identity = ⟨"alice"⟩ := by
  obtain ⟨s, past, rest, before, h, htask, hsends⟩ :=
    exists_sends ⟨.strict, false⟩ {} (.listPods "ns1" none .caller) ⟨⟨"alice"⟩, ⟨0⟩⟩ () rfl
      (by decide)
  obtain ⟨-, -, -, hsent⟩ := clients_never_cross_identities h
  exact ⟨s, past, rest, before, _, _, h, htask, hsends, hsent _ _ _ _ htask _ _ _ hsends⟩

end System

end ClusterAccess
