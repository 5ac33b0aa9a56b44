import ClusterAccess.Proofs.Client.Binding
import ClusterAccess.Proofs.Request.Stage

/-!
Many requests at once over one registry and one gate. A task is an accessor call, or a request
for a client by anybody else who holds the caches: a factory that uses them while it builds has
tasks of its own between the look-up and the answer to the build. The actions of all tasks come
in any order, caches are cleared at any time, and those who are asked answer anything.
-/

namespace ClusterAccess

variable {κ σ : Type}

structure Answers (κ : Type) where
  cancelled : Bool := false
  review : Except Fault Bool := .error .cancelled
  client : Except Fault (Client κ) := .error .cancelled
  payload : Except Fault Json := .error .cancelled

def Answers.collaborators (answers : Answers κ) : Collaborators Unit κ where
  cancelled _ _ := answers.cancelled
  review _ _ := pure answers.review
  factory := ClientCache.detached fun _ _ => pure answers.client
  perform _ _ := pure answers.payload

namespace ClientRegistry

def act (r : ClientRegistry κ) (answers : Answers κ) (action : Action κ) :
    action.Reply × ClientRegistry κ :=
  let (reply, w) := World.act answers.collaborators ⟨r, ()⟩ action
  (reply, w.registry)

variable (r : ClientRegistry κ) (answers : Answers κ)

@[simp] theorem act_build (family : Family) (id : Identity) :
    r.act answers (.build family id) = (answers.client, r) :=
  Prod.ext rfl (r.setCache_cache family)

/-- What an action comes to among given others, it also comes to under some answers, unless
their factory uses the caches. -/
theorem exists_act_eq {build : Family → Identity → StateM σ (Except Fault (Client κ))}
    {others : Collaborators σ κ} (hfactory : others.factory = ClientCache.detached build)
    (w : World σ κ) (action : Action κ) :
    ∃ answers, w.registry.act answers action =
      ((World.act others w action).1, (World.act others w action).2.registry) := by
  cases action with
  | checkToken token =>
      exact ⟨{ cancelled := others.cancelled w.surroundings token }, rfl⟩
  | review asker check =>
      exact ⟨{ review := (others.review asker check w.surroundings).1 }, rfl⟩
  | lookup family id => exact ⟨{}, rfl⟩
  | build family id =>
      refine ⟨{ client := (build family id w.surroundings).1 }, ?_⟩
      simp only [World.act, hfactory]
      rfl
  | store family id client => exact ⟨{}, rfl⟩
  | perform client call =>
      exact ⟨{ payload := (others.perform client call w.surroundings).1 }, rfl⟩

end ClientRegistry

/-- What a task is to bring: what an accessor asks for, or a client, which a factory may also want
while it builds another one. -/
inductive Job where
  | access (accessor : Accessor) (ctx : RequestContext)
  | client (family : Family) (id : Identity)

namespace Job

abbrev Result (κ : Type) : Job → Type
  | access _ _ => Except Fault Json
  | client _ _ => Except Fault (Client κ)

def script (gate : AuthorizationGate) : (job : Job) → Script κ (job.Result κ)
  | access accessor ctx => accessor.script gate ctx
  | client family id => Script.obtain family id

end Job

structure Task (κ : Type) where
  job : Job
  past : List (Event κ)
  rest : Script κ (job.Result κ)

def Task.Sends (task : Task κ) (before : List (Event κ)) (client : Client κ)
    (call : ClusterCall) : Prop :=
  (∃ answer after, task.past = before ++ ⟨.perform client call, answer⟩ :: after) ∨
    (task.past = before ∧ task.rest.front = .takes (.perform client call))

structure System (κ : Type) where
  registry : ClientRegistry κ
  tasks : List (Task κ)

namespace System

inductive Step (gate : AuthorizationGate) : System κ → System κ → Prop
  | start {s : System κ} (job : Job) :
      Step gate s ⟨s.registry, ⟨job, [], job.script gate⟩ :: s.tasks⟩
  | clear {s : System κ} (family : Family) :
      Step gate s ⟨s.registry.clear family, s.tasks⟩
  | act {registry : ClientRegistry κ} {before after : List (Task κ)} {job : Job}
      {past : List (Event κ)} {action : Action κ}
      {next : action.Reply → Script κ (job.Result κ)} (answers : Answers κ) :
      Step gate ⟨registry, before ++ ⟨job, past, .act action next⟩ :: after⟩
        ⟨(registry.act answers action).2,
          before ++ ⟨job, past ++ [⟨action, (registry.act answers action).1⟩],
            next (registry.act answers action).1⟩ :: after⟩

/-- The states that empty caches and no task can lead to. In each step a new task is started, or the
cache of a family is cleared, or any one of the tasks takes its next action, to which those who
are asked may answer anything. -/
inductive Reachable (gate : AuthorizationGate) (capacities : CacheCapacities) :
    System κ → Prop
  | fresh : Reachable gate capacities ⟨.empty capacities, []⟩
  | step {s s' : System κ} (h : Reachable gate capacities s) (hstep : Step gate s s') :
      Reachable gate capacities s'

variable {gate : AuthorizationGate} {capacities : CacheCapacities}

/-- A task may be left alone to its end. -/
theorem Reachable.run_alone {before after : List (Task κ)} {job : Job} {past : List (Event κ)}
    {rest : Script κ (job.Result κ)} {w : World σ κ}
    (h : Reachable gate capacities ⟨w.registry, before ++ ⟨job, past, rest⟩ :: after⟩)
    (others : Collaborators σ κ) (build : Family → Identity → StateM σ (Except Fault (Client κ)))
    (hfactory : others.factory = ClientCache.detached build) :
    ∃ later, later.map (·.action) = (rest.run others w).actions ∧
      Reachable gate capacities ⟨(rest.run others w).world.registry,
        before ++ ⟨job, past ++ later, .done (rest.run others w).result⟩ :: after⟩ := by
  induction rest generalizing past w with
  | done a => exact ⟨[], rfl, by simpa [Script.run] using h⟩
  | act action next ih =>
      obtain ⟨answers, hact⟩ := ClientRegistry.exists_act_eq hfactory w action
      have hstep := h.step (Step.act answers)
      rw [hact] at hstep
      obtain ⟨later, hactions, hlater⟩ := ih _ hstep
      refine ⟨⟨action, (World.act others w action).1⟩ :: later, ?_, ?_⟩
      · rw [List.map_cons, hactions]
        rfl
      · simpa [Script.run] using hlater

end System

/-! ### A call that nobody stands in the way of -/

def Collaborators.obliging (handle : κ) : Collaborators Unit κ where
  cancelled _ _ := false
  review _ _ := pure (.ok true)
  factory := ClientCache.detached fun _ id => pure (.ok ⟨id, handle⟩)
  perform _ _ := pure (.ok .null)

section

variable {gate : AuthorizationGate} (handle : κ) {w : World Unit κ}

theorem run_act_result {α : Type} {others : Collaborators σ κ} {w : World σ κ} {action : Action κ}
    {next : action.Reply → Script κ α} :
    ((Script.act action next).run others w).result =
      ((next (w.act others action).1).run others (w.act others action).2).result := rfl

theorem run_enforce_obliging {gating : Gating} {id : Identity} (w : World Unit κ)
    (check : AccessCheck) (hid : gate.stands gating = true → id ≠ .ambient) :
    let run := (gating.enforce gate id check).run (.obliging handle) w
    run.result = .ok () ∧ run.world = w := by
  rw [Gating.enforce_eq]
  split
  next hgate =>
    rw [if_neg (hid hgate)]
    exact ⟨rfl, rfl⟩
  next => exact ⟨rfl, rfl⟩

theorem run_obtain_obliging {family : Family} {id : Identity}
    (hmissing : (w.registry.cache family).find? id = none) :
    ((Script.obtain family id).run (.obliging handle) w).result = .ok ⟨id, handle⟩ := by
  have hlookup : (w.act (.obliging handle) (.lookup family id)).1 = none := by
    show ((w.registry.cache family).lookup id).1 = none
    rw [ClientCache.lookup_of_none hmissing]
  have hbuild : ∀ v : World Unit κ,
      v.act (.obliging handle) (.build family id) = (.ok ⟨id, handle⟩, v) :=
    fun v => Prod.ext rfl (congrArg (World.mk · ()) (v.registry.setCache_cache family))
  have hstore : ((w.act (.obliging handle) (.lookup family id)).2.act (.obliging handle)
      (.store family id ⟨id, handle⟩)).1 = ⟨id, handle⟩ := by
    show ((((w.registry.setCache family ((w.registry.cache family).lookup id).2)).cache
      family).store id ⟨id, handle⟩).1 = _
    rw [ClientRegistry.cache_setCache, if_pos rfl, ClientCache.lookup_of_none hmissing,
      ClientCache.store_of_none (by exact hmissing)]
  rw [Script.obtain_eq, run_act_result, hlookup, run_act_result, hbuild]
  show (Script.run _ (if id = id then _ else _) _).result = _
  rw [if_pos rfl, run_act_result, hstore]
  rfl

theorem perform_mem_actions_obliging {plan : Plan} {ctx : RequestContext}
    (hid : gate.stands plan.gating = true → ctx.identity ≠ .ambient)
    (hmissing : (w.registry.cache plan.family).find? (ctx.identityFor plan.attribution) = none) :
    .perform ⟨ctx.identityFor plan.attribution, handle⟩ plan.call ∈
      ((plan.script gate ctx).run.run (.obliging handle) w).actions := by
  have hgate := run_enforce_obliging handle w plan.check hid
  have hclient := run_obtain_obliging handle hmissing
  rw [Plan.script_eq]
  refine List.mem_cons_of_mem _ ?_
  show _ ∈ (Script.run _ (_ >>= _) _).actions
  rw [Script.run_bind]
  refine List.mem_append_right _ ?_
  rw [hgate.1, hgate.2]
  show _ ∈ (Script.run _ (_ >>= _) _).actions
  rw [Script.run_bind]
  refine List.mem_append_right _ ?_
  rw [hclient]
  exact List.mem_cons_of_mem _ (List.mem_singleton.mpr rfl)

end

namespace System

/-- What an accessor plans is sent, as the identity that the plan names, in some system: one in
which nobody stands in the way, unless the gate turns away a caller without a name. -/
theorem exists_sends (gate : AuthorizationGate) (capacities : CacheCapacities)
    (accessor : Accessor) (ctx : RequestContext) (handle : κ) {plan : Plan}
    (hplan : accessor.plan = .ok plan)
    (hid : gate.stands plan.gating = true → ctx.identity ≠ .ambient) :
    ∃ s past rest before, Reachable gate capacities s ∧
      ⟨.access accessor ctx, past, rest⟩ ∈ s.tasks ∧
      Task.Sends ⟨.access accessor ctx, past, rest⟩ before
        ⟨ctx.identityFor plan.attribution, handle⟩ plan.call := by
  let w : World Unit κ := ⟨.empty capacities, ()⟩
  have hstart : Reachable gate capacities
      ⟨w.registry, [] ++ ⟨.access accessor ctx, [], accessor.script gate ctx⟩ :: []⟩ :=
    .step .fresh (.start (.access accessor ctx))
  obtain ⟨later, hactions, hend⟩ :=
    hstart.run_alone (Collaborators.obliging handle) (fun _ id => pure (.ok ⟨id, handle⟩)) rfl
  have hmissing : (w.registry.cache plan.family).find? (ctx.identityFor plan.attribution) =
      none := by
    cases plan.family <;> rfl
  have hmem := perform_mem_actions_obliging handle hid hmissing
  rw [← Accessor.script_of_plan gate ctx hplan, ← hactions] at hmem
  obtain ⟨⟨_, answer⟩, hevent, rfl⟩ := List.mem_map.mp hmem
  obtain ⟨before, after, hpast⟩ := List.append_of_mem hevent
  exact ⟨_, _, _, before, hend, List.mem_singleton.mpr rfl, .inl ⟨answer, after, hpast⟩⟩

end System

end ClusterAccess
