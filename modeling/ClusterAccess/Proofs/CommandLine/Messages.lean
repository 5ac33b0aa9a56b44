import ClusterAccess.CommandLine.Program
import ClusterAccess.Proofs.System.Sending

/-!
What the commands send. A command that uses an accessor sends what the accessor does, always in the
caller's name. A question about access is sent as it is, and nothing else with it.
-/

namespace ClusterAccess

variable {σ κ : Type} {service : Service}

/-- Wherever a question about access has come to, it has asked the reviewer once at most, and it
does nothing but consult. -/
theorem along_canI (gate : AuthorizationGate) (ctx : RequestContext) (verb : String)
    (kind : ResourceKind) (ns : Option String) :
    (canI gate ctx verb kind ns : Script κ (Except Fault Bool)).Along
      (fun past front =>
        (messages (past.map (·.action))).Sublist [.question ctx.identity (.ofKind verb kind ns)] ∧
          ∀ action, front = .takes action → action.Consults) [] := by
  rw [canI_eq]
  refine ⟨⟨List.nil_sublist _, ?_⟩, fun cancelled => ?_⟩
  · rintro _ ⟨⟩
    trivial
  · cases cancelled with
    | true => exact ⟨List.nil_sublist _, by simp⟩
    | false =>
        dsimp only
        split
        next => exact ⟨List.nil_sublist _, by simp⟩
        next =>
          split
          next => exact ⟨List.nil_sublist _, by simp⟩
          next =>
            refine ⟨⟨List.nil_sublist _, ?_⟩, fun answer => ⟨List.Sublist.refl _, by simp⟩⟩
            rintro _ ⟨⟩
            trivial

theorem Service.sent_of_canI (send : Transport (StateM σ))
    (cancelled : List HttpRequest × σ → CancellationToken → Bool)
    {w : World (List HttpRequest × σ) ClusterClient} (hw : service.Keeps w)
    (gate : AuthorizationGate) (ctx : RequestContext) (verb : String) (kind : ResourceKind)
    (ns : Option String) :
    let run := (canI gate ctx verb kind ns).run (service.recorded send cancelled) w
    run.world.surroundings.1 =
        w.surroundings.1 ++ (messages run.actions).filterMap service.sent? ∧
      (messages run.actions).Sublist [.question ctx.identity (.ofKind verb kind ns)] := by
  intro run
  have halong := along_canI (κ := ClusterClient) gate ctx verb kind ns
  obtain ⟨-, hsent⟩ := Service.sent_of_messages send cancelled
    (s := canI gate ctx verb kind ns) hw fun past action next hpath _ => by
      have hconsults := (halong.of_path hpath).front.2 action rfl
      cases action with
      | store | perform => exact hconsults.elim
      | _ => trivial
  refine ⟨hsent, ?_⟩
  have hactions : run.actions = ((canI gate ctx verb kind ns).events
      (service.recorded send cancelled) w).map (·.action) := Script.actions_run _ w
  rw [hactions]
  exact (halong.of_path (Script.path_events _ _ _)).front.1

namespace CommandLine.Command

def plan? (command : Command) : Option Plan := command.accessor?.bind (·.plan.toOption)

def check? (command : Command) : Option AccessCheck :=
  match command with
  | canI verb resource ns group served =>
    some (.ofKind verb (kindOf group served resource ns.isSome) ns)
  | other => other.plan?.map (·.check)

/-- What a command may send for a caller, its question first. -/
def agenda (command : Command) (caller : Identity) : List Message :=
  (command.check?.map (.question caller)).toList ++
    (command.plan?.map fun plan => .call caller plan.call).toList

/-- Every accessor of a command is used in the caller's name. -/
theorem attribution_of_accessor? {command : Command} {accessor : Accessor}
    (h : command.accessor? = some accessor) : accessor.attribution = .caller := by
  cases command with
  | version | canI => cases h
  | _ =>
      obtain rfl := Option.some.inj h
      rfl

theorem agenda_of_accessor? {command : Command} {accessor : Accessor} (ctx : RequestContext)
    (h : command.accessor? = some accessor) :
    accessor.agenda ctx = command.agenda ctx.identity := by
  have hplan : command.plan? = accessor.plan.toOption := by rw [plan?, h, Option.bind_some]
  have hcheck : command.check? = accessor.plan.toOption.map (·.check) := by
    rw [← hplan]
    cases command with
    | canI => cases h
    | _ => rfl
  rw [agenda, hcheck, hplan, Accessor.agenda, attribution_of_accessor? h]
  cases accessor.plan <;> rfl

theorem script_of_accessor? {command : Command} {accessor : Accessor} (gate : AuthorizationGate)
    (ctx : RequestContext) (h : command.accessor? = some accessor) :
    (command.script gate ctx : Script κ (Except Fault Json)) = (do
      let answer ← accessor.script gate ctx
      return answer.map (report · command)) := by
  cases command with
  | version | canI => cases h
  | _ =>
      obtain rfl := Option.some.inj h
      rfl

/-- A command sends no more than is on its agenda, and in this order, whatever comes back. -/
theorem sent_of_script (send : Transport (StateM σ))
    (cancelled : List HttpRequest × σ → CancellationToken → Bool)
    {w : World (List HttpRequest × σ) ClusterClient} (hw : service.Keeps w)
    (gate : AuthorizationGate) (command : Command) (ctx : RequestContext) :
    ∃ sent, sent.Sublist ((command.agenda ctx.identity).filterMap service.sent?) ∧
      ((command.script gate ctx).run (service.recorded send cancelled) w).world.surroundings.1 =
        w.surroundings.1 ++ sent := by
  -- What is printed of an answer does not matter to what is sent.
  have hmapped {α : Type} (script : Script ClusterClient α) (f : α → Except Fault Json) :
      ((do let answer ← script; return f answer).run (service.recorded send cancelled) w).world =
        (script.run (service.recorded send cancelled) w).world := by
    rw [Script.run_bind]
    rfl
  cases haccessor : command.accessor? with
  | some accessor =>
      obtain ⟨hsent, hagenda⟩ := Service.sent_of_access send cancelled hw gate accessor ctx
      rw [agenda_of_accessor? ctx haccessor] at hagenda
      refine ⟨_, hagenda.filterMap _, ?_⟩
      rw [script_of_accessor? gate ctx haccessor, hmapped, hsent]
  | none =>
      cases command with
      | version => exact ⟨[], List.nil_sublist _, (List.append_nil _).symm⟩
      | canI verb resource ns group served =>
          obtain ⟨hsent, hagenda⟩ := Service.sent_of_canI send cancelled hw gate ctx verb
            (kindOf group served resource ns.isSome) ns
          refine ⟨_, hagenda.filterMap _, ?_⟩
          rw [script, hmapped, hsent]
      | _ => cases haccessor

end CommandLine.Command

end ClusterAccess
