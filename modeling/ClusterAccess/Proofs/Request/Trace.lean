import ClusterAccess.Proofs.Request.Path

/-!
The events of a run: every action that a script takes when it acts alone, with what came back. They
lead along a path of the script to its result, and every reply is what the world gave just then.
-/

namespace ClusterAccess

variable {σ κ α : Type} {others : Collaborators σ κ} {w w' : World σ κ} {e : Event κ}
  {past later : List (Event κ)}

namespace Action

/-- The action looks at a token or asks the reviewer. It needs neither caches nor clients. -/
def Consults : Action κ → Prop
  | checkToken _ => True
  | review _ _ => True
  | _ => False

theorem Consults.registry_act {action : Action κ} (h : action.Consults)
    (others : Collaborators σ κ) (w : World σ κ) :
    (w.act others action).2.registry = w.registry := by
  cases action with
  | checkToken token => rfl
  | review asker check => rfl
  | _ => exact h.elim

end Action

namespace Script

def events (others : Collaborators σ κ) : Script κ α → World σ κ → List (Event κ)
  | done _, _ => []
  | act action next, w =>
      let (reply, w) := w.act others action
      ⟨action, reply⟩ :: (next reply).events others w

theorem actions_run (s : Script κ α) (w : World σ κ) :
    (s.run others w).actions = (s.events others w).map (·.action) := by
  induction s generalizing w with
  | done a => rfl
  | act action next ih => exact congrArg (action :: ·) (ih _ _)

theorem Path.append_events {s rest : Script κ α} (h : s.Path past rest) (w : World σ κ) :
    s.Path (past ++ rest.events others w) (done (rest.run others w).result) := by
  induction rest generalizing past w with
  | done a => simpa [events, run] using h
  | act action next ih =>
      have hrest := ih (w.act others action).1 (h.step _) (w.act others action).2
      rw [List.append_assoc] at hrest
      exact hrest

theorem path_events (others : Collaborators σ κ) (s : Script κ α) (w : World σ κ) :
    s.Path (s.events others w) (done (s.run others w).result) := Path.start.append_events w

end Script

/-- A script ends with its first part if nothing is to be done about the result of that part. -/
theorem Script.run_bind_done {β : Type} {script : Script κ α} {f : α → Script κ β} {a : α} {b : β}
    (hresult : (script.run others w).result = a) (hdone : f a = .done b) :
    (script.bind f).run others w =
      ⟨b, (script.run others w).actions, (script.run others w).world⟩ := by
  have hbind := Script.run_bind others script f w
  simp only [hresult, hdone, Script.run, List.append_nil] at hbind
  exact hbind

/-- A script that only consults leaves all caches as they are. -/
theorem Script.registry_run {script : Script κ α}
    (h : ∀ action ∈ (script.run others w).actions, action.Consults) :
    (script.run others w).world.registry = w.registry := by
  induction script generalizing w with
  | done a => rfl
  | act action next ih =>
      have hrest := ih (w.act others action).1 (w := (w.act others action).2)
        fun other hother => h other (List.mem_cons_of_mem _ hother)
      exact hrest.trans ((h action (List.mem_cons_self ..)).registry_act others w)

inductive Replays (others : Collaborators σ κ) : World σ κ → List (Event κ) → World σ κ → Prop
  | nil (w : World σ κ) : Replays others w [] w
  | cons {w w' : World σ κ} {later : List (Event κ)} (action : Action κ)
      (h : Replays others (w.act others action).2 later w') :
      Replays others w (⟨action, (w.act others action).1⟩ :: later) w'

theorem Script.replays_events (s : Script κ α) (w : World σ κ) :
    Replays others w (s.events others w) (s.run others w).world := by
  induction s generalizing w with
  | done a => exact .nil w
  | act action next ih => exact .cons action (ih _ _)

/-- If each action that the script may take just then gives an event of this sort and keeps the
world as it should be, then so does the whole run. -/
theorem Script.run_keeps {E : Event κ → Prop} {I : World σ κ → Prop} {G : Action κ → Prop}
    (hact : ∀ w action, I w → G action →
      E ⟨action, (w.act others action).1⟩ ∧ I (w.act others action).2)
    {s rest : Script κ α}
    (hguard : ∀ past action next, s.Path past (.act action next) → (∀ e ∈ past, E e) → G action)
    (hpath : s.Path past rest) (hpast : ∀ e ∈ past, E e) (hw : I w) :
    (∀ e ∈ rest.events others w, E e) ∧ I (rest.run others w).world := by
  -- What may be done depends on what has happened, so the events so far come along.
  induction rest generalizing past w with
  | done a => exact ⟨by simp [Script.events], hw⟩
  | act action next ih =>
      obtain ⟨hevent, hw⟩ := hact w action hw (hguard past action next hpath hpast)
      obtain ⟨hlater, hend⟩ := ih _ (hpath.step _)
        (List.forall_mem_append.mpr ⟨hpast, List.forall_mem_singleton.mpr hevent⟩) hw
      exact ⟨List.forall_mem_cons.mpr ⟨hevent, hlater⟩, hend⟩

namespace Replays

theorem exists_between (h : Replays others w (past ++ later) w') :
    ∃ v, Replays others w past v ∧ Replays others v later w' := by
  induction past generalizing w with
  | nil => exact ⟨w, .nil w, h⟩
  | cons e past ih =>
      cases h with
      | cons action h =>
          obtain ⟨v, hpast, hlater⟩ := ih h
          exact ⟨v, .cons action hpast, hlater⟩

theorem reply_eq (h : Replays others w (e :: later) w') : e.reply = (w.act others e.action).1 := by
  cases h with
  | cons action h => rfl

theorem registry_eq (h : Replays others w past w') (hpast : ∀ e ∈ past, e.action.Consults) :
    w'.registry = w.registry := by
  induction h with
  | nil => rfl
  | cons action h ih =>
      rw [List.forall_mem_cons] at hpast
      exact (ih hpast.2).trans (hpast.1.registry_act others _)

end Replays

end ClusterAccess
