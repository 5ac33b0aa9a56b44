import ClusterAccess.Proofs.Request.Path
import ClusterAccess.Proofs.Request.Plan

/-!
The stages of an accessor call: what it can have done, with what came back, and what it does
next. They are put together from the stages of the gate and of the request for a client in the
way in which a plan puts their scripts together. Every path of a call comes to one of them.
-/

namespace ClusterAccess

variable {κ : Type}

@[simp] theorem Identity.isAmbient_iff {id : Identity} : id.isAmbient = true ↔ id = .ambient := by
  obtain ⟨name⟩ := id
  simp [Identity.isAmbient, Identity.ambient]

/-- Whether the gate asks before it lets a plan of this gating through. -/
def AuthorizationGate.stands (gate : AuthorizationGate) (gating : Gating) : Bool :=
  !gate.authDisabled && (gating = .always || gate.mode = .strict)

/-! ### The gate -/

inductive GateStage (gate : AuthorizationGate) (gating : Gating) (id : Identity)
    (check : AccessCheck) : List (Event κ) → Front κ (Except Fault Unit) → Prop
  | open (hgate : gate.stands gating = false) : GateStage gate gating id check [] (.ends (.ok ()))
  | anonymous (hgate : gate.stands gating = true) (hid : id = .ambient) :
      GateStage gate gating id check []
        (.ends (Decision.toResult id check (.deny Decision.noIdentity)))
  | asking (hgate : gate.stands gating = true) (hid : id ≠ .ambient) :
      GateStage gate gating id check [] (.takes (.review id check))
  | answered (hgate : gate.stands gating = true) (hid : id ≠ .ambient)
      (answer : Except Fault Bool) :
      GateStage gate gating id check [⟨.review id check, answer⟩]
        (.ends (Decision.toResult id check (.ofReview answer)))

theorem Gating.enforce_eq (gating : Gating) (gate : AuthorizationGate) (id : Identity)
    (check : AccessCheck) :
    (gating.enforce gate id check : Script κ (Except Fault Unit)) =
      if gate.stands gating then
        if id = .ambient then .done (Decision.toResult id check (.deny Decision.noIdentity))
        else .act (.review id check) fun answer =>
          .done (Decision.toResult id check (.ofReview answer))
      else .done (.ok ()) := by
  obtain ⟨mode, authDisabled⟩ := gate
  have hauthorize : ∀ mode, (AuthorizationGate.authorize ⟨mode, authDisabled⟩ Script.review id
      check : Script κ (Except Fault Unit)) =
        if authDisabled then .done (.ok ())
        else if id = .ambient then .done (Decision.toResult id check (.deny Decision.noIdentity))
        else .act (.review id check) fun answer =>
          .done (Decision.toResult id check (.ofReview answer)) := by
    intro mode
    by_cases hid : id = .ambient
    · cases authDisabled <;>
        simp [AuthorizationGate.authorize, AuthorizationGate.decide, AuthorizationGate.canI,
          hid] <;>
        rfl
    · have hid' : id.isAmbient = false := Bool.eq_false_iff.mpr (mt Identity.isAmbient_iff.mp hid)
      cases authDisabled <;>
        simp [AuthorizationGate.authorize, AuthorizationGate.decide, AuthorizationGate.canI, hid,
          hid'] <;>
        rfl
  cases gating <;> cases mode <;> cases authDisabled <;>
    simp [Gating.enforce, AuthorizationGate.authorizeIfStrict, AuthorizationGate.stands,
      hauthorize] <;>
    rfl

theorem along_enforce (gating : Gating) (gate : AuthorizationGate) (id : Identity)
    (check : AccessCheck) :
    (gating.enforce gate id check : Script κ (Except Fault Unit)).Along
      (GateStage gate gating id check) [] := by
  rw [Gating.enforce_eq]
  split
  next hgate =>
    split
    next hid => exact .anonymous hgate hid
    next hid => exact ⟨.asking hgate hid, fun answer => .answered hgate hid answer⟩
  next hgate => exact .open (by simpa using hgate)

/-! ### The client -/

inductive ClientStage (family : Family) (id : Identity) :
    List (Event κ) → Front κ (Except Fault (Client κ)) → Prop
  | looking : ClientStage family id [] (.takes (.lookup family id))
  | hit (client : Client κ) :
      ClientStage family id [⟨.lookup family id, some client⟩] (.ends (.ok client))
  | building : ClientStage family id [⟨.lookup family id, none⟩] (.takes (.build family id))
  | failed (f : Fault) :
      ClientStage family id [⟨.lookup family id, none⟩, ⟨.build family id, .error f⟩]
        (.ends (.error f))
  | misbound (client : Client κ) (hid : client.identity ≠ id) :
      ClientStage family id [⟨.lookup family id, none⟩, ⟨.build family id, .ok client⟩]
        (.ends (.error (ClientCache.misbound id client.identity)))
  | storing (client : Client κ) (hid : client.identity = id) :
      ClientStage family id [⟨.lookup family id, none⟩, ⟨.build family id, .ok client⟩]
        (.takes (.store family id client))
  | stored (client kept : Client κ) (hid : client.identity = id) :
      ClientStage family id
        [⟨.lookup family id, none⟩, ⟨.build family id, .ok client⟩,
          ⟨.store family id client, kept⟩]
        (.ends (.ok kept))

theorem Script.obtain_eq (family : Family) (id : Identity) :
    (Script.obtain family id : Script κ (Except Fault (Client κ))) =
      .act (.lookup family id) fun
        | some client => .done (.ok client)
        | none => .act (.build family id) fun
          | .error f => .done (.error f)
          | .ok client =>
              if client.identity = id then
                .act (.store family id client) fun kept => .done (.ok kept)
              else .done (.error (ClientCache.misbound id client.identity)) := by
  refine congrArg (Script.act _) (funext fun found => ?_)
  cases found with
  | some client => rfl
  | none =>
      refine congrArg (Script.act _) (funext fun built => ?_)
      cases built with
      | error f => rfl
      | ok client => by_cases hid : client.identity = id <;> simp [Script.bind, hid] <;> rfl

theorem along_obtain (family : Family) (id : Identity) :
    (Script.obtain family id : Script κ (Except Fault (Client κ))).Along
      (ClientStage family id) [] := by
  rw [Script.obtain_eq]
  refine ⟨.looking, fun found => ?_⟩
  cases found with
  | some client => exact .hit client
  | none =>
      refine ⟨.building, fun built => ?_⟩
      cases built with
      | error f => exact .failed f
      | ok client =>
          dsimp only
          split
          next hid => exact ⟨.storing client hid, fun kept => .stored client kept hid⟩
          next hid => exact .misbound client hid

/-- What is stored was built just before, for the identity that it is stored for. -/
theorem ClientStage.built_of_store {family other : Family} {id key : Identity}
    {used : List (Event κ)} {client : Client κ}
    (h : ClientStage family id used (.takes (.store other key client))) :
    client.identity = key ∧ ⟨.build other key, .ok client⟩ ∈ used := by
  cases h with
  | storing client hid => exact ⟨hid, by simp⟩

/-! ### The plan -/

inductive PlanStage (plan : Plan) (gate : AuthorizationGate) (ctx : RequestContext) :
    List (Event κ) → Front κ (Except Fault Json) → Prop
  | start : PlanStage plan gate ctx [] (.takes (.checkToken ctx.token))
  | cancelled :
      PlanStage plan gate ctx [⟨.checkToken ctx.token, true⟩] (.ends (.error .cancelled))
  | asking {asked : List (Event κ)} {action : Action κ}
      (hgate : GateStage gate plan.gating ctx.identity plan.check asked (.takes action)) :
      PlanStage plan gate ctx (⟨.checkToken ctx.token, false⟩ :: asked) (.takes action)
  | denied {asked : List (Event κ)} {f : Fault}
      (hgate : GateStage gate plan.gating ctx.identity plan.check asked (.ends (.error f))) :
      PlanStage plan gate ctx (⟨.checkToken ctx.token, false⟩ :: asked) (.ends (.error f))
  | obtaining {asked used : List (Event κ)} {action : Action κ}
      (hgate : GateStage gate plan.gating ctx.identity plan.check asked (.ends (.ok ())))
      (hclient : ClientStage plan.family (ctx.identityFor plan.attribution) used
        (.takes action)) :
      PlanStage plan gate ctx (⟨.checkToken ctx.token, false⟩ :: asked ++ used) (.takes action)
  | unobtained {asked used : List (Event κ)} {f : Fault}
      (hgate : GateStage gate plan.gating ctx.identity plan.check asked (.ends (.ok ())))
      (hclient : ClientStage plan.family (ctx.identityFor plan.attribution) used
        (.ends (.error f))) :
      PlanStage plan gate ctx (⟨.checkToken ctx.token, false⟩ :: asked ++ used)
        (.ends (.error f))
  | obtained {asked used : List (Event κ)} {client : Client κ}
      (hgate : GateStage gate plan.gating ctx.identity plan.check asked (.ends (.ok ())))
      (hclient : ClientStage plan.family (ctx.identityFor plan.attribution) used
        (.ends (.ok client))) :
      PlanStage plan gate ctx (⟨.checkToken ctx.token, false⟩ :: asked ++ used)
        (.takes (.checkToken ctx.token))
  | cancelledLate {asked used : List (Event κ)} {client : Client κ}
      (hgate : GateStage gate plan.gating ctx.identity plan.check asked (.ends (.ok ())))
      (hclient : ClientStage plan.family (ctx.identityFor plan.attribution) used
        (.ends (.ok client))) :
      PlanStage plan gate ctx
        (⟨.checkToken ctx.token, false⟩ :: asked ++ used ++ [⟨.checkToken ctx.token, true⟩])
        (.ends (.error .cancelled))
  | performing {asked used : List (Event κ)} {client : Client κ}
      (hgate : GateStage gate plan.gating ctx.identity plan.check asked (.ends (.ok ())))
      (hclient : ClientStage plan.family (ctx.identityFor plan.attribution) used
        (.ends (.ok client))) :
      PlanStage plan gate ctx
        (⟨.checkToken ctx.token, false⟩ :: asked ++ used ++ [⟨.checkToken ctx.token, false⟩])
        (.takes (.perform client plan.call))
  | performed {asked used : List (Event κ)} {client : Client κ}
      (hgate : GateStage gate plan.gating ctx.identity plan.check asked (.ends (.ok ())))
      (hclient : ClientStage plan.family (ctx.identityFor plan.attribution) used
        (.ends (.ok client)))
      (answer : Except Fault Json) :
      PlanStage plan gate ctx
        (⟨.checkToken ctx.token, false⟩ :: asked ++ used ++
          [⟨.checkToken ctx.token, false⟩, ⟨.perform client plan.call, answer⟩])
        (.ends (answer.map plan.payload.of))

/-- A plan as one script, from its parts. -/
theorem Plan.script_eq (plan : Plan) (gate : AuthorizationGate) (ctx : RequestContext) :
    ((plan.script gate ctx).run : Script κ (Except Fault Json)) =
      .act (.checkToken ctx.token) fun
        | true => .done (.error .cancelled)
        | false => (plan.gating.enforce gate ctx.identity plan.check).bind fun
          | .error f => .done (.error f)
          | .ok () =>
            (Script.obtain plan.family (ctx.identityFor plan.attribution)).bind fun
              | .error f => .done (.error f)
              | .ok client => .act (.checkToken ctx.token) fun
                | true => .done (.error .cancelled)
                | false => .act (.perform client plan.call) fun answer =>
                    .done (answer.map plan.payload.of) := by
  refine congrArg (Script.act _) (funext fun cancelled => ?_)
  cases cancelled with
  | true => rfl
  | false =>
      refine congrArg (Script.bind (plan.gating.enforce gate ctx.identity plan.check))
        (funext fun passed => ?_)
      cases passed with
      | error f => rfl
      | ok _ =>
          refine congrArg (Script.bind _) (funext fun found => ?_)
          cases found with
          | error f => rfl
          | ok client =>
              refine congrArg (Script.act _) (funext fun cancelled => ?_)
              cases cancelled with
              | true => rfl
              | false =>
                  refine congrArg (Script.act _) (funext fun answer => ?_)
                  cases answer <;> rfl

theorem Plan.along_script (plan : Plan) (gate : AuthorizationGate) (ctx : RequestContext) :
    ((plan.script gate ctx).run : Script κ (Except Fault Json)).Along
      (PlanStage plan gate ctx) [] := by
  rw [Plan.script_eq]
  refine ⟨.start, fun cancelled => ?_⟩
  cases cancelled with
  | true => exact .cancelled
  | false =>
      -- The stages of each part begin anew after the events of the parts before it.
      rw [List.nil_append, ← List.append_nil [_]]
      refine Script.Along.after _ (Script.along_bind.mpr ?_)
      refine (along_enforce plan.gating gate ctx.identity plan.check).mono ?_
      rintro asked (action | f | ⟨⟨⟩⟩) hgate
      · exact .asking hgate
      · exact .denied hgate
      · dsimp only
        rw [← List.append_nil asked]
        refine Script.Along.after _ (Script.along_bind.mpr ?_)
        refine (along_obtain plan.family (ctx.identityFor plan.attribution)).mono ?_
        rintro used (action | f | client) hclient
        · simpa using PlanStage.obtaining hgate hclient
        · simpa using PlanStage.unobtained hgate hclient
        · refine ⟨by simpa using PlanStage.obtained hgate hclient, fun cancelled => ?_⟩
          cases cancelled with
          | true => simpa using PlanStage.cancelledLate hgate hclient
          | false =>
              refine ⟨by simpa using PlanStage.performing hgate hclient, fun answer => ?_⟩
              simpa using PlanStage.performed hgate hclient answer

theorem PlanStage.built_of_store {plan : Plan} {gate : AuthorizationGate} {ctx : RequestContext}
    {family : Family} {id : Identity} {past : List (Event κ)} {client : Client κ}
    (h : PlanStage plan gate ctx past (.takes (.store family id client))) :
    client.identity = id ∧ ⟨.build family id, .ok client⟩ ∈ past := by
  cases h with
  | asking hgate => cases hgate
  | obtaining hgate hclient =>
      obtain ⟨hid, hbuilt⟩ := hclient.built_of_store
      exact ⟨hid, List.mem_append_right _ hbuilt⟩

/-! ### The accessor -/

namespace Accessor

variable {accessor : Accessor} {plan : Plan} {gate : AuthorizationGate} {ctx : RequestContext}

/-- The gate stands before every listing of namespaces and, if it is strict, before all else. -/
theorem stands_of_plan (hauth : gate.authDisabled = false) (h : accessor.plan = .ok plan) :
    gate.stands plan.gating = true ↔ accessor.listsNamespaces ∨ gate.mode = .strict := by
  rw [(attribution_and_gating_of_plan h).2]
  cases accessor.listsNamespaces <;> simp [AuthorizationGate.stands, hauth]

theorem script_of_plan (gate : AuthorizationGate) (ctx : RequestContext)
    (h : accessor.plan = .ok plan) :
    (accessor.script gate ctx : Script κ _) = (plan.script gate ctx).run := by
  rw [Accessor.script, h]

theorem script_of_error {f : ReferenceFault} (gate : AuthorizationGate) (ctx : RequestContext)
    (h : accessor.plan = .error f) :
    (accessor.script gate ctx : Script κ _) = .done (.error f.toFault) := by
  rw [Accessor.script, h]
  rfl

theorem stage_of_plan {past : List (Event κ)} {rest : Script κ (Except Fault Json)}
    (hplan : accessor.plan = .ok plan) (hpath : (accessor.script gate ctx).Path past rest) :
    PlanStage plan gate ctx past rest.front := by
  rw [script_of_plan gate ctx hplan] at hpath
  exact ((plan.along_script gate ctx).of_path hpath).front

/-- Every path of an accessor call comes to a stage of its plan, if it has one. -/
theorem stage_of_path {past : List (Event κ)} {rest : Script κ (Except Fault Json)}
    (hpath : (accessor.script gate ctx).Path past rest) :
    (∃ f, accessor.plan = .error f ∧ past = [] ∧ rest.front = .ends (.error f.toFault)) ∨
      ∃ plan, accessor.plan = .ok plan ∧ PlanStage plan gate ctx past rest.front := by
  cases hplan : accessor.plan with
  | error f =>
      rw [Accessor.script, hplan] at hpath
      have hends : (Script.done (.error f.toFault) : Script κ (Except Fault Json)).Along
          (fun past front => past = [] ∧ front = .ends (.error f.toFault)) [] := ⟨rfl, rfl⟩
      exact .inl ⟨f, rfl, (hends.of_path hpath).front⟩
  | ok plan => exact .inr ⟨plan, rfl, stage_of_plan hplan hpath⟩

end Accessor

/-! ### Questions about access -/

theorem canI_eq (gate : AuthorizationGate) (ctx : RequestContext) (verb : String)
    (kind : ResourceKind) (ns : Option String) :
    (canI gate ctx verb kind ns : Script κ (Except Fault Bool)) =
      .act (.checkToken ctx.token) fun
        | true => .done (.error .cancelled)
        | false =>
          if gate.authDisabled then .done (.ok true)
          else if ctx.identity.isAmbient then
            .done (.error (.unauthenticated Decision.noIdentity))
          else .act (.review ctx.identity (.ofKind verb kind ns)) .done := by
  refine congrArg (Script.act _) (funext fun cancelled => ?_)
  cases cancelled with
  | true => rfl
  | false => rfl

end ClusterAccess
