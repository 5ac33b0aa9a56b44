import ClusterAccess.Proofs.Request.Question
import ClusterAccess.Proofs.Request.Trace
import ClusterAccess.Proofs.Client.Sharing

/-!
What a call of an accessor can do, and with what it ends. Wrong names are refused before anything
is done. After that the reviewer, the factory and the control plane are turned to in this order,
each at most once, and the first thing that goes wrong is the last thing that is done.
-/

namespace ClusterAccess

variable {σ κ : Type} {gate : AuthorizationGate} {plan : Plan} {ctx : RequestContext}
  {past asked used : List (Event κ)} {family : Family} {id : Identity} {f : Fault}

/-! ### Contacts and faults -/

inductive Contact where
  | reviewer
  | factory
  | controlPlane
  deriving DecidableEq

def Action.contact? : Action κ → Option Contact
  | .review _ _ => some .reviewer
  | .build _ _ => some .factory
  | .perform _ _ => some .controlPlane
  | _ => none

def contacts (past : List (Event κ)) : List Contact := past.filterMap (·.action.contact?)

@[simp] theorem contacts_nil : contacts ([] : List (Event κ)) = [] := rfl

@[simp] theorem contacts_append (past later : List (Event κ)) :
    contacts (past ++ later) = contacts past ++ contacts later := List.filterMap_append

@[simp] theorem contacts_checkToken (token : CancellationToken) (cancelled : Bool)
    (past : List (Event κ)) :
    contacts (⟨.checkToken token, cancelled⟩ :: past) = contacts past := rfl

/-- Whom a plan turns to if nothing goes wrong: the reviewer if the gate stands, the factory if
the client is missing, and the control plane. -/
def Plan.contacts (plan : Plan) (gate : AuthorizationGate) (ctx : RequestContext)
    (registry : ClientRegistry κ) : List Contact :=
  (if gate.stands plan.gating then [.reviewer] else []) ++
    (if (registry.cache plan.family).contains (ctx.identityFor plan.attribution) then []
      else [.factory]) ++ [.controlPlane]

/-- What is wrong after an event, if anything is: the request turns out to be cancelled, the review
does not allow it, no client is built or one of somebody else, or the control plane fails. -/
def Event.fault? : Event κ → Option Fault
  | ⟨.checkToken _, true⟩ => some .cancelled
  | ⟨.review asker check, answer⟩ =>
    match Decision.ofReview answer with
    | .allow => none
    | .deny reason =>
      some (.forbidden asker.display check.verb check.resourceLabel check.ns reason)
  | ⟨.build _ _, .error f⟩ => some f
  | ⟨.build _ id, .ok client⟩ =>
    if client.identity = id then none else some (ClientCache.misbound id client.identity)
  | ⟨.perform _ _, .error f⟩ => some f
  | _ => none

def FailsWith (past : List (Event κ)) (f : Fault) : Prop :=
  ∃ before last, past = before ++ [last] ∧ (∀ e ∈ before, e.fault? = none) ∧ last.fault? = some f

theorem failsWith_singleton {e : Event κ} (h : e.fault? = some f) : FailsWith [e] f :=
  ⟨[], e, rfl, by simp, h⟩

theorem FailsWith.cons {e : Event κ} (h : FailsWith used f) (he : e.fault? = none) :
    FailsWith (e :: used) f := by
  obtain ⟨before, last, rfl, hbefore, hlast⟩ := h
  exact ⟨e :: before, last, rfl, List.forall_mem_cons.mpr ⟨he, hbefore⟩, hlast⟩

theorem FailsWith.append (h : FailsWith used f) (hpast : ∀ e ∈ past, e.fault? = none) :
    FailsWith (past ++ used) f := by
  induction past with
  | nil => exact h
  | cons e past ih =>
      rw [List.forall_mem_cons] at hpast
      exact (ih hpast.2).cons hpast.1

/-- How a call ends, told from its events alone: a caller without a name is turned away unasked, or
the first thing that goes wrong is the result and the last thing that is done, or nothing goes
wrong, and the result is what the accessor makes of the answer to its one call, which is the last
event. -/
inductive Ending (plan : Plan) (gate : AuthorizationGate) (ctx : RequestContext) :
    List (Event κ) → Except Fault Json → Prop
  | nameless (hgate : gate.stands plan.gating = true) (hid : ctx.identity = .ambient) :
      Ending plan gate ctx [⟨.checkToken ctx.token, false⟩]
        (.error (.forbidden ctx.identity.display plan.check.verb plan.check.resourceLabel
          plan.check.ns Decision.noIdentity))
  | failed {past : List (Event κ)} {f : Fault} (h : FailsWith past f) :
      Ending plan gate ctx past (.error f)
  | answered {past : List (Event κ)} {client : Client κ} {payload : Json}
      (hpast : ∀ e ∈ past, e.fault? = none) :
      Ending plan gate ctx (past ++ [⟨.perform client plan.call, .ok payload⟩])
        (.ok (plan.payload.of payload))

/-! ### The stages -/

theorem GateStage.effects_of_passed {gating : Gating} {check : AccessCheck}
    (h : GateStage gate gating id check asked (.ends (.ok ()))) :
    (∀ e ∈ asked, e.action.Consults) ∧ (∀ e ∈ asked, e.fault? = none) ∧
      contacts asked = if gate.stands gating then [.reviewer] else [] := by
  generalize hfront : (.ends (.ok ()) : Front κ (Except Fault Unit)) = front at h
  cases h with
  | «open» hgate => simp [hgate]
  | anonymous hgate hid => simp [Decision.toResult] at hfront
  | asking hgate hid => cases hfront
  | answered hgate hid answer =>
      have hallow : Decision.ofReview answer = .allow := by
        cases hdecision : Decision.ofReview answer with
        | allow => rfl
        | deny reason => simp [hdecision, Decision.toResult] at hfront
      simp [Action.Consults, Event.fault?, hallow, hgate, contacts, Action.contact?]

/-- The gate denies a caller without a name unasked, and others by the fault of their review. -/
theorem GateStage.effects_of_denied {gating : Gating} {check : AccessCheck}
    (h : GateStage gate gating id check asked (.ends (.error f))) :
    gate.stands gating = true ∧ contacts asked <+: [.reviewer] ∧
      (id = .ambient ∧ asked = [] ∧
          f = .forbidden id.display check.verb check.resourceLabel check.ns Decision.noIdentity ∨
        FailsWith asked f) := by
  generalize hfront : (.ends (.error f) : Front κ (Except Fault Unit)) = front at h
  cases h with
  | «open» hgate => simp at hfront
  | anonymous hgate hid =>
      exact ⟨hgate, List.nil_prefix, .inl ⟨hid, rfl, Except.error.inj (Front.ends.inj hfront)⟩⟩
  | asking hgate hid => cases hfront
  | answered hgate hid answer =>
      refine ⟨hgate, List.prefix_rfl, .inr (failsWith_singleton ?_)⟩
      have hdenied := Front.ends.inj hfront
      cases hdecision : Decision.ofReview answer with
      | allow => simp [hdecision, Decision.toResult] at hdenied
      | deny reason => simp_all [Event.fault?, Decision.toResult]

/-- A request for a client begins with the look-up, which alone decides whether the factory is
turned to. -/
theorem ClientStage.effects_of_ends {result : Except Fault (Client κ)}
    (h : ClientStage family id used (.ends result)) :
    (∃ found later, used = ⟨.lookup family id, found⟩ :: later ∧
        contacts used = if found.isSome then [] else [.factory]) ∧
      ((∃ client, result = .ok client ∧ ∀ e ∈ used, e.fault? = none) ∨
        ∃ f, result = .error f ∧ FailsWith used f) := by
  cases h with
  | hit client => exact ⟨⟨_, _, rfl, rfl⟩, .inl ⟨client, rfl, by simp [Event.fault?]⟩⟩
  | failed f =>
      exact ⟨⟨none, _, rfl, rfl⟩, .inr ⟨f, rfl, (failsWith_singleton rfl).cons rfl⟩⟩
  | misbound client hid =>
      refine ⟨⟨none, _, rfl, rfl⟩, .inr ⟨_, rfl, (failsWith_singleton ?_).cons rfl⟩⟩
      simp [Event.fault?, hid]
  | stored built kept hid =>
      exact ⟨⟨none, _, rfl, rfl⟩, .inl ⟨kept, rfl, by simp [Event.fault?, hid]⟩⟩

/-- A look-up after nothing but consultations finds a client exactly if the cache has one now. -/
def LooksUp (plan : Plan) (ctx : RequestContext) (registry : ClientRegistry κ)
    (past : List (Event κ)) : Prop :=
  ∀ before found later,
    past = before ++ ⟨.lookup plan.family (ctx.identityFor plan.attribution), found⟩ :: later →
      (∀ e ∈ before, e.action.Consults) →
      found.isSome = (registry.cache plan.family).contains (ctx.identityFor plan.attribution)

/-- Up to the client, a call that was let through has turned to all but the control plane. -/
theorem contacts_of_passed {registry : ClientRegistry κ} {result : Except Fault (Client κ)}
    (later : List (Event κ))
    (hgate : GateStage gate plan.gating ctx.identity plan.check asked (.ends (.ok ())))
    (hclient : ClientStage plan.family (ctx.identityFor plan.attribution) used (.ends result))
    (hlookup : LooksUp plan ctx registry
      (⟨.checkToken ctx.token, false⟩ :: asked ++ used ++ later)) :
    contacts (⟨.checkToken ctx.token, false⟩ :: asked ++ used) ++ [.controlPlane] =
      plan.contacts gate ctx registry := by
  -- The gate leaves the caches alone, so the look-up finds them as they were at the start.
  obtain ⟨hconsults, -, hasked⟩ := hgate.effects_of_passed
  obtain ⟨⟨found, rest, rfl, hused⟩, -⟩ := hclient.effects_of_ends
  have hfound := hlookup (⟨.checkToken ctx.token, false⟩ :: asked) found (rest ++ later) (by simp)
    (List.forall_mem_cons.mpr ⟨trivial, hconsults⟩)
  rw [contacts_append, hused, contacts_checkToken, hasked, hfound, Plan.contacts]

theorem fault?_of_passed
    (hgate : GateStage gate plan.gating ctx.identity plan.check asked (.ends (.ok ()))) :
    ∀ e ∈ (⟨.checkToken ctx.token, false⟩ :: asked : List (Event κ)), e.fault? = none :=
  List.forall_mem_cons.mpr ⟨rfl, hgate.effects_of_passed.2.1⟩

theorem fault?_of_obtained {client : Client κ}
    (hgate : GateStage gate plan.gating ctx.identity plan.check asked (.ends (.ok ())))
    (hclient : ClientStage plan.family (ctx.identityFor plan.attribution) used
      (.ends (.ok client))) :
    ∀ e ∈ (⟨.checkToken ctx.token, false⟩ :: asked ++ used : List (Event κ)), e.fault? = none := by
  obtain ⟨-, ⟨-, -, hused⟩ | ⟨f, hresult, -⟩⟩ := hclient.effects_of_ends
  · exact List.forall_mem_append.mpr ⟨fault?_of_passed hgate, hused⟩
  · cases hresult

theorem PlanStage.effects_of_ends {registry : ClientRegistry κ} {result : Except Fault Json}
    (h : PlanStage plan gate ctx past (.ends result)) (hlookup : LooksUp plan ctx registry past) :
    Ending plan gate ctx past result ∧
      contacts past <+: plan.contacts gate ctx registry ∧
      ∀ answer, result = .ok answer → contacts past = plan.contacts gate ctx registry := by
  cases h with
  | cancelled => exact ⟨.failed (failsWith_singleton rfl), List.nil_prefix, by simp⟩
  | denied hgate =>
      obtain ⟨hstands, hprefix, hdenied⟩ := hgate.effects_of_denied
      refine ⟨?_, ?_, by simp⟩
      · rcases hdenied with ⟨hid, rfl, rfl⟩ | hfails
        · exact .nameless hstands hid
        · exact .failed (hfails.cons rfl)
      · rw [contacts_checkToken, Plan.contacts, if_pos hstands, List.append_assoc]
        exact hprefix.trans (List.prefix_append _ _)
  | @unobtained asked used f hgate hclient =>
      have hcontacts := contacts_of_passed [] hgate hclient (by simpa using hlookup)
      refine ⟨?_, ⟨_, hcontacts⟩, by simp⟩
      obtain ⟨-, ⟨client, hresult, -⟩ | ⟨_, hresult, hfails⟩⟩ := hclient.effects_of_ends
      · cases hresult
      · obtain rfl := Except.error.inj hresult
        exact .failed (hfails.append (fault?_of_passed hgate))
  | cancelledLate hgate hclient =>
      have hcontacts := contacts_of_passed _ hgate hclient hlookup
      refine ⟨.failed ?_, ?_, by simp⟩
      · exact (failsWith_singleton rfl).append (fault?_of_obtained hgate hclient)
      · rw [contacts_append]
        exact ⟨[.controlPlane], by simpa using hcontacts⟩
  | @performed asked used client hgate hclient answer =>
      have hcontacts := contacts_of_passed _ hgate hclient hlookup
      have hall : contacts (⟨.checkToken ctx.token, false⟩ :: asked ++ used ++
          [⟨.checkToken ctx.token, false⟩, ⟨.perform client plan.call, answer⟩]) =
          plan.contacts gate ctx registry := by
        rw [contacts_append]
        exact hcontacts
      refine ⟨?_, hall ▸ List.prefix_rfl, fun _ _ => hall⟩
      rw [List.append_cons]
      have hsofar : ∀ e ∈ ⟨.checkToken ctx.token, false⟩ :: asked ++ used ++
          [⟨.checkToken ctx.token, false⟩], e.fault? = none :=
        List.forall_mem_append.mpr ⟨fault?_of_obtained hgate hclient,
          List.forall_mem_singleton.mpr rfl⟩
      cases answer with
      | error f => exact .failed ((failsWith_singleton rfl).append hsofar)
      | ok payload => exact .answered hsofar

/-! ### The accessor -/

theorem Replays.looksUp {others : Collaborators σ κ} {w w' : World σ κ}
    (h : Replays others w past w') : LooksUp plan ctx w.registry past := by
  rintro before found later rfl hconsults
  obtain ⟨v, hbefore, hlater⟩ := h.exists_between
  have hfound : found = ((v.registry.cache plan.family).lookup
      (ctx.identityFor plan.attribution)).1 := hlater.reply_eq
  rw [hfound, ClientCache.lookup_fst, ClientCache.contains_eq, hbefore.registry_eq hconsults]

namespace Accessor

variable {accessor : Accessor} {others : Collaborators σ κ} {w : World σ κ}

/-- A call that is cancelled from the start does nothing but find that out. -/
theorem cancelled_of_plan (gate : AuthorizationGate) (hplan : accessor.plan = .ok plan)
    (htoken : others.cancelled w.surroundings ctx.token = true) :
    ((accessor.script gate ctx).run others w).result = .error .cancelled ∧
      (accessor.script gate ctx).events others w = [⟨.checkToken ctx.token, true⟩] ∧
      ((accessor.script gate ctx).run others w).world = w := by
  have hact : w.act others (.checkToken ctx.token) = (true, w) := congrArg (·, w) htoken
  rw [script_of_plan gate ctx hplan, Plan.script_eq]
  simp [Script.run, Script.events, hact]

theorem stage_of_run (gate : AuthorizationGate) (ctx : RequestContext)
    (others : Collaborators σ κ) (w : World σ κ) (hplan : accessor.plan = .ok plan) :
    PlanStage plan gate ctx ((accessor.script gate ctx).events others w)
      (.ends ((accessor.script gate ctx).run others w).result) :=
  stage_of_plan hplan (Script.path_events others (accessor.script gate ctx) w)

/-- Every reply of a call is what those whom it turned to gave just then. What no constructor of
references accepts is refused, and nothing is done. Else a call that is cancelled from the start
does nothing. Else it turns to a first few of those whom its plan turns to, with nothing but its
plan in mind, and ends with the first thing that goes wrong. If it ends well, it has turned to all
of them, and brings what the control plane gave for the one call. -/
theorem first_fault_is_the_result (accessor : Accessor) (gate : AuthorizationGate)
    (ctx : RequestContext) (others : Collaborators σ κ) (w : World σ κ) :
    let run := (accessor.script gate ctx).run others w
    let events := (accessor.script gate ctx).events others w
    Replays others w events run.world ∧
    (∀ f, accessor.wanted.check = .error f →
      run.result = .error (.invalidRequest f.message) ∧ events = [] ∧ run.world = w) ∧
    ∀ target, accessor.wanted.check = .ok target →
      ∃ plan, accessor.plan = .ok plan ∧ accessor.Settles plan ∧
        (others.cancelled w.surroundings ctx.token = true →
          run.result = .error .cancelled ∧ events = [⟨.checkToken ctx.token, true⟩] ∧
            run.world = w) ∧
        (∀ e ∈ events, plan.Covers ctx e.action) ∧
        contacts events <+: plan.contacts gate ctx w.registry ∧
        Ending plan gate ctx events run.result ∧
        ∀ answer, run.result = .ok answer →
          contacts events = plan.contacts gate ctx w.registry := by
  intro run events
  have hreplays : Replays others w events run.world := Script.replays_events _ w
  refine ⟨hreplays, fun f hrefused => ?_, fun target haccepted => ?_⟩
  · have hscript : (accessor.script gate ctx : Script κ _) = .done (.error f.toFault) := by
      rw [Accessor.script, plan_eq_error.mpr hrefused]
      rfl
    simp only [run, events, hscript]
    exact ⟨rfl, rfl, rfl⟩
  · obtain ⟨plan, hplan⟩ := exists_plan_iff.mpr ⟨target, haccepted⟩
    have hstage := stage_of_run gate ctx others w hplan
    obtain ⟨hending, hprefix, hall⟩ := hstage.effects_of_ends hreplays.looksUp
    exact ⟨plan, hplan, settles_of_plan hplan, cancelled_of_plan gate hplan, hstage.covers.1,
      hprefix, hending, hall⟩

end Accessor

def Collaborators.guarded : Collaborators Unit Unit where
  cancelled _ token := token = ⟨1⟩
  review asker _ := pure (.ok (asker = ⟨"bob"⟩))
  factory := ClientCache.detached fun _ id => pure (.ok ⟨id, ()⟩)
  perform _ call := pure (.error (.notFound call.target.kind.kind (call.target.name.getD "")))

/-- Four deletions behind a strict gate, each of which gets one step further than the one before it:
a name with a slash is refused, a cancelled request does nothing, alice is denied by her review, and
bob's call turns to everybody and is told that there is no such claim. -/
theorem deletions_get_as_far_as_their_first_fault :
    let gate : AuthorizationGate := ⟨.strict, false⟩
    let w : World Unit Unit := ⟨.empty {}, ()⟩
    let ctx (caller : String) (token : Nat) : RequestContext := ⟨⟨caller⟩, ⟨token⟩⟩
    let result (name : String) (ctx : RequestContext) :=
      (((Accessor.deletePvc "ns1" name).script gate ctx).run .guarded w).result
    let events (name : String) (ctx : RequestContext) :=
      ((Accessor.deletePvc "ns1" name).script gate ctx).events .guarded w
    (result "a/b" (ctx "bob" 0) = .error (.invalidRequest
        (ReferenceFault.invalidName .persistentVolumeClaims "a/b").message) ∧
      events "a/b" (ctx "bob" 0) = []) ∧
    (result "data" (ctx "bob" 1) = .error .cancelled ∧
      events "data" (ctx "bob" 1) = [⟨.checkToken ⟨1⟩, true⟩]) ∧
    ∃ (plan : Plan) (reason : String),
      plan.call = ⟨⟨.persistentVolumeClaims, some "ns1", some "data"⟩, .delete .foreground⟩ ∧
      plan.contacts gate (ctx "bob" 0) w.registry = [.reviewer, .factory, .controlPlane] ∧
      Ending plan gate (ctx "alice" 0) (events "data" (ctx "alice" 0)) (.error
        (.forbidden "alice" "delete" "persistentvolumeclaims" (some "ns1") reason)) ∧
      contacts (events "data" (ctx "bob" 0)) <+: plan.contacts gate (ctx "bob" 0) w.registry ∧
      Ending plan gate (ctx "bob" 0) (events "data" (ctx "bob" 0))
        (.error (.notFound "PersistentVolumeClaim" "data")) := by
  intro gate w ctx result events
  obtain ⟨-, hrefused, -⟩ :=
    Accessor.first_fault_is_the_result (.deletePvc "ns1" "a/b") gate (ctx "bob" 0) .guarded w
  obtain ⟨hinvalid, hnothing, -⟩ := hrefused (.invalidName .persistentVolumeClaims "a/b") rfl
  obtain ⟨-, -, hlate⟩ :=
    Accessor.first_fault_is_the_result (.deletePvc "ns1" "data") gate (ctx "bob" 1) .guarded w
  obtain ⟨-, -, -, hcancelled, -⟩ := hlate _ rfl
  obtain ⟨hstopped, hlooked, -⟩ := hcancelled (by decide)
  obtain ⟨-, -, hdenied⟩ :=
    Accessor.first_fault_is_the_result (.deletePvc "ns1" "data") gate (ctx "alice" 0) .guarded w
  obtain ⟨-, -, haccepted⟩ :=
    Accessor.first_fault_is_the_result (.deletePvc "ns1" "data") gate (ctx "bob" 0) .guarded w
  obtain ⟨plan, hplan, -, -, -, -, halice, -⟩ := hdenied _ rfl
  obtain ⟨plan', hplan', hsettles, -, -, hcontacts, hbob, -⟩ := haccepted _ rfl
  obtain rfl := Except.ok.inj (hplan.symm.trans hplan')
  refine ⟨⟨hinvalid, hnothing⟩, ⟨hstopped, hlooked⟩, plan, _, hsettles.call, ?_, halice, hcontacts,
    hbob⟩
  obtain rfl := Except.ok.inj hplan
  rfl

end ClusterAccess
