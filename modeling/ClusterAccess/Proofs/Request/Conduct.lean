import ClusterAccess.Proofs.Client.Faithful
import ClusterAccess.Proofs.Request.Stage
import ClusterAccess.Proofs.Request.Trace

/-!
How a call behaves towards others, if those always give the same answer to the same question. Its
conduct, which is its result with the questions and the calls it has sent, is then the same
whatever the caches hold. It can be told from the answers alone.
-/

namespace ClusterAccess

variable {σ κ : Type} {gate : AuthorizationGate} {ctx : RequestContext} {plan : Plan}

/-! ### Steady answers -/

/-- Answers that depend on nothing but the question. A client counts as its identity. -/
structure SteadyAnswers where
  cancelled : CancellationToken → Bool
  review : Identity → AccessCheck → Except Fault Bool
  builds : Family → Builds
  perform : Identity → ClusterCall → Except Fault Json

/-- These others always answer so, in whatever state they are. Their factory may use the cache that
it builds for and leave anything there that it would build in the same way. -/
structure Collaborators.Steady (others : Collaborators σ κ) (answers : SteadyAnswers) : Prop where
  cancelled : ∀ s token, others.cancelled s token = answers.cancelled token
  review : ∀ asker check s, (others.review asker check s).1 = answers.review asker check
  builds : ∀ family id c s,
    (others.factory family id (c, s)).1.map (·.identity) = answers.builds family id
  reenters : ∀ family id (c : ClientCache κ) s,
    ClientCache.Reenters (answers.builds family) c (others.factory family id (c, s)).2.1
  perform : ∀ client call s,
    (others.perform client call s).1 = answers.perform client.identity call

def SteadyAnswers.Allow (answers : SteadyAnswers) : Event κ → Prop
  | ⟨.checkToken token, cancelled⟩ => cancelled = answers.cancelled token
  | ⟨.review asker check, answer⟩ => answer = answers.review asker check
  | ⟨.lookup family id, found⟩ =>
    ∀ client, found = some client → client.identity = id ∧ answers.builds family id = .ok id
  | ⟨.build family id, answer⟩ => answer.map (·.identity) = answers.builds family id
  | ⟨.store _ id _, kept⟩ => kept.identity = id
  | ⟨.perform client call, answer⟩ => answer = answers.perform client.identity call

def SteadyAnswers.MayStore (answers : SteadyAnswers) (action : Action κ) : Prop :=
  ∀ family id client, action = .store family id client →
    client.identity = id ∧ answers.builds family id = .ok id

variable {others : Collaborators σ κ} {answers : SteadyAnswers} {w : World σ κ}

def Action.IsCall : Action κ → Prop
  | .perform _ _ => True
  | _ => False

/-- These others always answer so, except that the control plane may answer anything. -/
structure Collaborators.SteadyButCalls (others : Collaborators σ κ) (answers : SteadyAnswers) :
    Prop where
  cancelled : ∀ s token, others.cancelled s token = answers.cancelled token
  review : ∀ asker check s, (others.review asker check s).1 = answers.review asker check
  builds : ∀ family id c s,
    (others.factory family id (c, s)).1.map (·.identity) = answers.builds family id
  reenters : ∀ family id (c : ClientCache κ) s,
    ClientCache.Reenters (answers.builds family) c (others.factory family id (c, s)).2.1

theorem Collaborators.SteadyButCalls.act (h : others.SteadyButCalls answers)
    (hw : w.registry.Faithful answers.builds) {action : Action κ}
    (haction : answers.MayStore action) :
    (action.IsCall ∨ answers.Allow ⟨action, (w.act others action).1⟩) ∧
      (w.act others action).2.registry.Faithful answers.builds := by
  cases action with
  | checkToken token => exact ⟨.inr (h.cancelled _ _), hw⟩
  | review asker check => exact ⟨.inr (h.review _ _ _), hw⟩
  | lookup family id =>
      refine ⟨.inr fun client hfound => ?_, hw.setCache ((hw family).lookup id)⟩
      exact hw family id client (ClientCache.lookup_fst.symm.trans hfound)
  | build family id =>
      exact ⟨.inr (h.builds _ _ _ _),
        hw.setCache ((h.reenters family id _ _).faithful (hw family))⟩
  | store family id client =>
      obtain ⟨hid, hbuilds⟩ := haction family id client rfl
      exact ⟨.inr ((hw family).identity_of_store hid hbuilds),
        hw.setCache ((hw family).store hid hbuilds)⟩
  | perform client call => exact ⟨.inl trivial, hw⟩

namespace Collaborators.Steady

theorem butCalls (h : others.Steady answers) : others.SteadyButCalls answers :=
  ⟨h.cancelled, h.review, h.builds, h.reenters⟩

theorem act (h : others.Steady answers) (hw : w.registry.Faithful answers.builds)
    {action : Action κ} (haction : answers.MayStore action) :
    answers.Allow ⟨action, (w.act others action).1⟩ ∧
      (w.act others action).2.registry.Faithful answers.builds := by
  obtain ⟨hallow, hend⟩ := h.butCalls.act hw haction
  refine ⟨?_, hend⟩
  rcases hallow with hcall | hallow
  · cases action with
    | perform client call => exact h.perform _ _ _
    | _ => exact hcall.elim
  · exact hallow

/-- If a script stores only what it may, all its events are as they have to be, and it leaves the
caches faithful. -/
theorem run (h : others.Steady answers) {α : Type} {s rest : Script κ α} {past : List (Event κ)}
    (hstore : ∀ past action next, s.Path past (.act action next) →
      (∀ e ∈ past, answers.Allow e) → answers.MayStore action)
    (hpath : s.Path past rest) (hpast : ∀ e ∈ past, answers.Allow e)
    (hw : w.registry.Faithful answers.builds) :
    (∀ e ∈ rest.events others w, answers.Allow e) ∧
      (rest.run others w).world.registry.Faithful answers.builds :=
  Script.run_keeps (fun _ _ hw haction => h.act hw haction) hstore hpath hpast hw

end Collaborators.Steady

/-! ### Conduct -/

/-- What a request sends: questions to the reviewer and, in the name of somebody, calls to the
control plane. -/
inductive Message where
  | question (asker : Identity) (check : AccessCheck)
  | call (sender : Identity) (call : ClusterCall)

def Action.message? : Action κ → Option Message
  | .review asker check => some (.question asker check)
  | .perform client call => some (.call client.identity call)
  | _ => none

def messages (actions : List (Action κ)) : List Message := actions.filterMap Action.message?

@[simp] theorem messages_nil : messages ([] : List (Action κ)) = [] := rfl

@[simp] theorem messages_append (actions later : List (Action κ)) :
    messages (actions ++ later) = messages actions ++ messages later := List.filterMap_append

@[simp] theorem messages_checkToken (token : CancellationToken) (actions : List (Action κ)) :
    messages (.checkToken token :: actions) = messages actions := rfl

@[simp] theorem messages_review (asker : Identity) (check : AccessCheck)
    (actions : List (Action κ)) :
    messages (.review asker check :: actions) = .question asker check :: messages actions := rfl

@[simp] theorem messages_perform (client : Client κ) (call : ClusterCall)
    (actions : List (Action κ)) :
    messages (.perform client call :: actions) = .call client.identity call :: messages actions :=
  rfl

/-- All that others see of a call: its result and the messages it sends, in their order. What it
looks up in the caches and whether a client has to be built for it are not part of this. -/
structure Conduct where
  result : Except Fault Json
  messages : List Message

def Run.conduct (run : Run σ κ (Except Fault Json)) : Conduct := ⟨run.result, messages run.actions⟩

/-! ### The conduct that the answers lead to -/

def AuthorizationGate.questions (gate : AuthorizationGate) (gating : Gating) (id : Identity)
    (check : AccessCheck) : List Message :=
  if gate.stands gating ∧ id ≠ .ambient then [.question id check] else []

namespace SteadyAnswers

def passes (answers : SteadyAnswers) (gate : AuthorizationGate) (gating : Gating) (id : Identity)
    (check : AccessCheck) : Except Fault Unit :=
  if gate.stands gating then
    if id = .ambient then Decision.toResult id check (.deny Decision.noIdentity)
    else Decision.toResult id check (.ofReview (answers.review id check))
  else .ok ()

def obtains (answers : SteadyAnswers) (family : Family) (id : Identity) : Except Fault Identity :=
  match answers.builds family id with
  | .error f => .error f
  | .ok built => if built = id then .ok id else .error (ClientCache.misbound id built)

/-- What becomes of a plan. Caches have no part in it. -/
def conduct (answers : SteadyAnswers) (gate : AuthorizationGate) (ctx : RequestContext)
    (plan : Plan) : Conduct :=
  if answers.cancelled ctx.token then ⟨.error .cancelled, []⟩
  else
    let questions := gate.questions plan.gating ctx.identity plan.check
    match answers.passes gate plan.gating ctx.identity plan.check with
    | .error f => ⟨.error f, questions⟩
    | .ok () =>
      match answers.obtains plan.family (ctx.identityFor plan.attribution) with
      | .error f => ⟨.error f, questions⟩
      | .ok sender =>
        ⟨(answers.perform sender plan.call).map plan.payload.of,
          questions ++ [.call sender plan.call]⟩

end SteadyAnswers

variable {asked used past : List (Event κ)} {family : Family} {id : Identity}

theorem GateStage.passes_eq {gating : Gating} {check : AccessCheck} {result : Except Fault Unit}
    (h : GateStage gate gating id check asked (.ends result))
    (hallow : ∀ e ∈ asked, answers.Allow e) :
    answers.passes gate gating id check = result ∧
      messages (asked.map (·.action)) = gate.questions gating id check := by
  unfold SteadyAnswers.passes AuthorizationGate.questions
  cases h with
  | «open» hgate => simp [hgate]
  | anonymous hgate hid => simp [hgate, hid]
  | answered hgate hid answer =>
      have hanswer : answer = answers.review id check := hallow ⟨.review id check, answer⟩ (by simp)
      simp [hgate, hid, hanswer]

theorem ClientStage.obtains_eq {result : Except Fault (Client κ)}
    (h : ClientStage family id used (.ends result)) (hallow : ∀ e ∈ used, answers.Allow e) :
    answers.obtains family id = result.map (·.identity) ∧
      messages (used.map (·.action)) = [] := by
  refine ⟨?_, by cases h <;> rfl⟩
  unfold SteadyAnswers.obtains
  cases h with
  | hit client =>
      -- The cache gives what the factory would build.
      obtain ⟨hid, hbuilds⟩ := hallow ⟨.lookup family id, some client⟩ (by simp) client rfl
      simp [hid, hbuilds, Except.map]
  | failed f =>
      have hbuilds : .error f = answers.builds family id :=
        hallow ⟨.build family id, .error f⟩ (by simp)
      simp [← hbuilds, Except.map]
  | misbound client hid =>
      have hbuilds : .ok client.identity = answers.builds family id :=
        hallow ⟨.build family id, .ok client⟩ (by simp)
      simp [← hbuilds, hid, Except.map]
  | stored client kept hid =>
      have hbuilds : .ok client.identity = answers.builds family id :=
        hallow ⟨.build family id, .ok client⟩ (by simp)
      have hkept : kept.identity = id := hallow ⟨.store family id client, kept⟩ (by simp)
      simp [← hbuilds, hid, hkept, Except.map]

theorem PlanStage.conduct_eq {result : Except Fault Json}
    (h : PlanStage plan gate ctx past (.ends result)) (hallow : ∀ e ∈ past, answers.Allow e) :
    answers.conduct gate ctx plan = ⟨result, messages (past.map (·.action))⟩ := by
  have htoken : ∀ cancelled, ⟨.checkToken ctx.token, cancelled⟩ ∈ past →
      answers.cancelled ctx.token = cancelled := fun cancelled he => (hallow _ he).symm
  unfold SteadyAnswers.conduct
  cases h with
  | cancelled => simp [htoken true (by simp)]
  | denied hgate =>
      obtain ⟨hpasses, hmessages⟩ := hgate.passes_eq fun e he => hallow e (by simp [he])
      simp [htoken false (by simp), hpasses, hmessages]
  | unobtained hgate hclient =>
      obtain ⟨hpasses, hasked⟩ := hgate.passes_eq fun e he => hallow e (by simp [he])
      obtain ⟨hobtains, hused⟩ := hclient.obtains_eq fun e he => hallow e (by simp [he])
      simp [htoken false (by simp), hpasses, hasked, hobtains, hused, Except.map]
  | cancelledLate hgate hclient =>
      -- The token would have to change its mind.
      have hcancelled := htoken true (by simp)
      simp [htoken false (by simp)] at hcancelled
  | @performed asked used client hgate hclient answer =>
      obtain ⟨hpasses, hasked⟩ := hgate.passes_eq fun e he => hallow e (by simp [he])
      obtain ⟨hobtains, hused⟩ := hclient.obtains_eq fun e he => hallow e (by simp [he])
      have hanswer : answer = answers.perform client.identity plan.call :=
        hallow ⟨.perform client plan.call, answer⟩ (by simp)
      simp [htoken false (by simp), hpasses, hasked, hobtains, hused, hanswer, Except.map]

def SteadyAnswers.conductOf (answers : SteadyAnswers) (gate : AuthorizationGate)
    (accessor : Accessor) (ctx : RequestContext) : Conduct :=
  match accessor.plan with
  | .error f => ⟨.error f.toFault, []⟩
  | .ok plan => answers.conduct gate ctx plan

theorem Accessor.mayStore_of_path {accessor : Accessor} {action : Action κ}
    {next : action.Reply → Script κ (Except Fault Json)}
    (hpath : (accessor.script gate ctx).Path past (.act action next))
    (hallow : ∀ e ∈ past, e.action.IsCall ∨ answers.Allow e) : answers.MayStore action := by
  rintro family id client rfl
  rcases Accessor.stage_of_path hpath with ⟨f, -, -, hfront⟩ | ⟨plan, -, hstage⟩
  · simp [Script.front] at hfront
  · obtain ⟨rfl, hbuilt⟩ := hstage.built_of_store
    exact ⟨rfl, ((hallow _ hbuilt).resolve_left not_false).symm⟩

/-- If the answers explain all events of a call that has ended, its conduct is what they say. -/
theorem Accessor.conduct_eq {accessor : Accessor}
    (hallow : ∀ e ∈ (accessor.script gate ctx).events others w, answers.Allow e) :
    ((accessor.script gate ctx).run others w).conduct = answers.conductOf gate accessor ctx := by
  unfold Run.conduct SteadyAnswers.conductOf
  rw [Script.actions_run]
  rcases Accessor.stage_of_path (Script.path_events others (accessor.script gate ctx) w) with
    ⟨f, hfault, hevents, hfront⟩ | ⟨plan, hplan, hstage⟩
  · rw [hevents, hfault]
    obtain hresult := Front.ends.inj hfront
    simp [hresult]
  · rw [hplan]
    exact (hstage.conduct_eq hallow).symm

/-- From wherever the caches are faithful, a call conducts itself as the answers say, and leaves
them faithful. -/
theorem Collaborators.Steady.access (h : others.Steady answers)
    (hw : w.registry.Faithful answers.builds) (gate : AuthorizationGate) (accessor : Accessor)
    (ctx : RequestContext) :
    ((accessor.script gate ctx).run others w).conduct = answers.conductOf gate accessor ctx ∧
      ((accessor.script gate ctx).run others w).world.registry.Faithful answers.builds := by
  have hstore : ∀ past action next,
      (accessor.script gate ctx : Script κ _).Path past (.act action next) →
        (∀ e ∈ past, answers.Allow e) → answers.MayStore action :=
    fun _ _ _ hpath hallow => Accessor.mayStore_of_path hpath fun e he => .inr (hallow e he)
  obtain ⟨hallow, hend⟩ := h.run hstore .start (by simp) hw
  exact ⟨Accessor.conduct_eq hallow, hend⟩

/-! ### Any answers of the control plane -/

theorem GateStage.not_isCall {gating : Gating} {check : AccessCheck}
    {front : Front κ (Except Fault Unit)} (h : GateStage gate gating id check asked front) :
    ∀ e ∈ asked, ¬ e.action.IsCall := by
  cases h <;> simp [Action.IsCall]

theorem ClientStage.not_isCall {front : Front κ (Except Fault (Client κ))}
    (h : ClientStage family id used front) : ∀ e ∈ used, ¬ e.action.IsCall := by
  cases h <;> simp [Action.IsCall]

/-- A call is sent at most once. Then it is the last thing that is done, and its answer is the
result. -/
theorem PlanStage.call_is_last {result : Except Fault Json}
    (h : PlanStage plan gate ctx past (.ends result)) :
    ∃ before, (∀ e ∈ before, ¬ e.action.IsCall) ∧
      (past = before ∨ ∃ client answer, past = before ++ [⟨.perform client plan.call, answer⟩] ∧
        result = answer.map plan.payload.of) := by
  have htoken : ∀ cancelled, ∀ e ∈ [(⟨.checkToken ctx.token, cancelled⟩ : Event κ)],
      ¬ e.action.IsCall := by
    simp [Action.IsCall]
  cases h with
  | cancelled => exact ⟨_, htoken true, .inl rfl⟩
  | denied hgate =>
      exact ⟨_, List.forall_mem_append.mpr ⟨htoken false, hgate.not_isCall⟩, .inl rfl⟩
  | unobtained hgate hclient =>
      refine ⟨_, List.forall_mem_append.mpr ⟨?_, hclient.not_isCall⟩, .inl rfl⟩
      exact List.forall_mem_append.mpr ⟨htoken false, hgate.not_isCall⟩
  | cancelledLate hgate hclient =>
      refine ⟨_, List.forall_mem_append.mpr ⟨?_, htoken true⟩, .inl rfl⟩
      refine List.forall_mem_append.mpr ⟨?_, hclient.not_isCall⟩
      exact List.forall_mem_append.mpr ⟨htoken false, hgate.not_isCall⟩
  | @performed asked used client hgate hclient answer =>
      refine ⟨⟨.checkToken ctx.token, false⟩ :: asked ++ used ++ [⟨.checkToken ctx.token, false⟩],
        List.forall_mem_append.mpr ⟨?_, htoken false⟩, .inr ⟨client, answer, by simp, rfl⟩⟩
      refine List.forall_mem_append.mpr ⟨?_, hclient.not_isCall⟩
      exact List.forall_mem_append.mpr ⟨htoken false, hgate.not_isCall⟩

/-- Only the replies to calls depend on what the control plane answers. -/
theorem SteadyAnswers.allow_of_not_isCall {e : Event κ}
    (perform : Identity → ClusterCall → Except Fault Json) (he : ¬ e.action.IsCall)
    (hallow : answers.Allow e) : { answers with perform }.Allow e := by
  obtain ⟨action, reply⟩ := e
  cases action with
  | perform client call => exact absurd trivial he
  | _ => exact hallow

namespace Collaborators.SteadyButCalls

/-- Whatever the control plane answers to a call, that and the answers say how the call conducts
itself. -/
theorem access (h : others.SteadyButCalls answers) (hw : w.registry.Faithful answers.builds)
    (gate : AuthorizationGate) (accessor : Accessor) (ctx : RequestContext) :
    (∃ perform, ((accessor.script gate ctx).run others w).conduct =
        { answers with perform }.conductOf gate accessor ctx) ∧
      ((accessor.script gate ctx).run others w).world.registry.Faithful answers.builds := by
  obtain ⟨hallow, hend⟩ := Script.run_keeps
    (E := fun e => e.action.IsCall ∨ answers.Allow e)
    (I := fun w => w.registry.Faithful answers.builds)
    (fun _ _ hw haction => h.act hw haction) (fun _ _ _ => Accessor.mayStore_of_path)
    (.start (s := accessor.script gate ctx)) (by simp) hw
  refine ⟨?_, hend⟩
  rcases Accessor.stage_of_path (Script.path_events others (accessor.script gate ctx) w) with
    ⟨f, -, hevents, -⟩ | ⟨plan, -, hstage⟩
  · exact ⟨answers.perform, Accessor.conduct_eq (by simp [hevents])⟩
  · -- There is one answer of the control plane at most, so it may be taken for its only one.
    obtain ⟨before, hbefore, hevents | ⟨client, answer, hevents, -⟩⟩ := hstage.call_is_last
    · rw [hevents] at hallow
      refine ⟨answers.perform, Accessor.conduct_eq fun e he => ?_⟩
      rw [hevents] at he
      exact (hallow e he).resolve_left (hbefore e he)
    · rw [hevents] at hallow
      refine ⟨fun _ _ => answer, Accessor.conduct_eq fun e he => ?_⟩
      rw [hevents] at he
      rcases List.mem_append.mp he with he | he
      · exact SteadyAnswers.allow_of_not_isCall _ (hbefore e he)
          ((hallow e (List.mem_append_left _ he)).resolve_left (hbefore e he))
      · obtain rfl := List.mem_singleton.mp he
        exact rfl

end Collaborators.SteadyButCalls

end ClusterAccess
