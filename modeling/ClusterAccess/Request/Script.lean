import ClusterAccess.Access.Gate
import ClusterAccess.Client.Registry
import ClusterAccess.Identity
import ClusterAccess.Resource.Operation

/-!
A request as the sequence of single actions it takes towards others: looking at its token, asking
the reviewer, using a cache, building a client, calling the control plane. Each action is atomic,
so a script says all there is about the order in which one request acts, and scripts of several
requests can be interleaved. `run` lets a script act alone; `run_bind` says that a script made of
two parts acts as the one and then as the other.
-/

namespace ClusterAccess

inductive Action (κ : Type) where
  | checkToken (token : CancellationToken)
  | review (asker : Identity) (check : AccessCheck)
  | lookup (family : Family) (id : Identity)
  | build (family : Family) (id : Identity)
  | store (family : Family) (id : Identity) (client : Client κ)
  | perform (client : Client κ) (call : ClusterCall)

/-- What comes back from an action. The answer of the token is whether it is cancelled. -/
def Action.Reply {κ : Type} : Action κ → Type
  | .checkToken _ => Bool
  | .review _ _ => Except Fault Bool
  | .lookup _ _ => Option (Client κ)
  | .build _ _ => Except Fault (Client κ)
  | .store _ _ _ => Client κ
  | .perform _ _ => Except Fault Json

inductive Script (κ α : Type) where
  | done (result : α)
  | act (action : Action κ) (next : action.Reply → Script κ α)

namespace Script

variable {κ α β γ : Type}

def bind : Script κ α → (α → Script κ β) → Script κ β
  | done a, f => f a
  | act action next, f => act action fun reply => (next reply).bind f

instance : Monad (Script κ) where
  pure := done
  bind := bind

theorem bind_done (s : Script κ α) : s.bind done = s := by
  induction s with
  | done a => rfl
  | act action next ih => simp only [bind, ih]

theorem bind_bind (s : Script κ α) (f : α → Script κ β) (g : β → Script κ γ) :
    (s.bind f).bind g = s.bind fun a => (f a).bind g := by
  induction s with
  | done a => rfl
  | act action next ih => simp only [bind, ih]

instance : LawfulMonad (Script κ) :=
  LawfulMonad.mk' (Script κ) bind_done (fun _ _ => rfl) bind_bind

def single (action : Action κ) : Script κ action.Reply := act action done

def isCancelled (token : CancellationToken) : Script κ Bool := single (.checkToken token)

def review : Reviewer (Script κ) := fun asker check => single (.review asker check)

def perform (client : Client κ) (call : ClusterCall) : Script κ (Except Fault Json) :=
  single (.perform client call)

def obtain (family : Family) (id : Identity) : Script κ (Except Fault (Client κ)) :=
  ClientCache.serve id (single (.lookup family id)) (single (.build family id))
    (fun client => single (.store family id client))

end Script

/-- Those a request acts on, with what they know between them as a state. -/
structure Collaborators (σ κ : Type) where
  cancelled : σ → CancellationToken → Bool
  review : Reviewer (StateM σ)
  factory : ClientCache.Factory σ κ
  perform : Client κ → ClusterCall → StateM σ (Except Fault Json)

structure World (σ κ : Type) where
  registry : ClientRegistry κ
  surroundings : σ

namespace World

variable {σ κ α : Type}

def onSurroundings (f : StateM σ α) (w : World σ κ) : α × World σ κ :=
  let (answer, s) := f w.surroundings
  (answer, { w with surroundings := s })

def onFamily (family : Family) (f : StateM (ClientCache κ × σ) α) (w : World σ κ) :
    α × World σ κ :=
  let (answer, (registry, s)) := ClientRegistry.onFamily family f (w.registry, w.surroundings)
  (answer, ⟨registry, s⟩)

def act (others : Collaborators σ κ) (w : World σ κ) : (a : Action κ) → a.Reply × World σ κ
  | .checkToken token => (others.cancelled w.surroundings token, w)
  | .review asker check => w.onSurroundings (others.review asker check)
  | .lookup family id => w.onFamily family (ClientCache.onCache (·.lookup id))
  | .build family id => w.onFamily family (others.factory family id)
  | .store family id client => w.onFamily family (ClientCache.onCache (·.store id client))
  | .perform client call => w.onSurroundings (others.perform client call)

end World

/-- A run of a script: its result, the actions it took in their order, and the world after it. -/
structure Run (σ κ α : Type) where
  result : α
  actions : List (Action κ)
  world : World σ κ

def Script.run {σ κ α : Type} (others : Collaborators σ κ) : Script κ α → World σ κ → Run σ κ α
  | .done a, w => ⟨a, [], w⟩
  | .act action next, w =>
    let (reply, w) := w.act others action
    let rest := (next reply).run others w
    { rest with actions := action :: rest.actions }

theorem Script.run_bind {σ κ α β : Type} (others : Collaborators σ κ) (s : Script κ α)
    (f : α → Script κ β) (w : World σ κ) :
    (s >>= f).run others w =
      let first := s.run others w
      let rest := (f first.result).run others first.world
      ⟨rest.result, first.actions ++ rest.actions, rest.world⟩ := by
  induction s generalizing w with
  | done a => rfl
  | act action next ih =>
    exact congrArg (fun rest => { rest with actions := action :: rest.actions })
      (ih (w.act others action).1 (w.act others action).2)

end ClusterAccess
