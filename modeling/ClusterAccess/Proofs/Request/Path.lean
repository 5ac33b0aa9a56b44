import ClusterAccess.Request.Script

/-!
The paths of a script: the actions it has taken, each with what came back, and what is left of
it. Whatever can come back may do so here, so what holds on all paths holds whoever answers and
whatever others do between two actions.
-/

namespace ClusterAccess

structure Event (κ : Type) where
  action : Action κ
  reply : action.Reply

inductive Front (κ α : Type) where
  | takes (action : Action κ)
  | ends (result : α)

namespace Script

variable {κ σ α β : Type} {I J : List (Event κ) → Front κ α → Prop}

def front : Script κ α → Front κ α
  | done a => .ends a
  | act action _ => .takes action

theorem eq_done_of_front {s : Script κ α} {a : α} (h : s.front = .ends a) : s = done a := by
  cases s with
  | done b => simpa [front] using h
  | act action next => simp [front] at h

theorem eq_act_of_front {s : Script κ α} {action : Action κ} (h : s.front = .takes action) :
    ∃ next, s = act action next := by
  cases s with
  | done b => simp [front] at h
  | act other next =>
      obtain rfl : other = action := by simpa [front] using h
      exact ⟨next, rfl⟩

/-- The script `s` can have these events behind it and the rest before it. A step may bring any
reply of the type that its action has, so the paths of a script are those of all runs, among any
others and with anything that happens between two actions. -/
inductive Path (s : Script κ α) : List (Event κ) → Script κ α → Prop
  | start : Path s [] s
  | step {past : List (Event κ)} {action : Action κ} {next : action.Reply → Script κ α}
      (h : Path s past (act action next)) (reply : action.Reply) :
      Path s (past ++ [⟨action, reply⟩]) (next reply)

/-- The event that a path goes on with was the next action of the script before it. -/
theorem Path.before {s rest : Script κ α} {before after : List (Event κ)} {e : Event κ}
    (h : s.Path (before ++ e :: after) rest) : ∃ next, s.Path before (act e.action next) := by
  generalize hpast : before ++ e :: after = past at h
  induction h generalizing after with
  | start => simp at hpast
  | @step past action next h reply ih =>
      -- The last event of the path is either this one or one that comes after it.
      rcases List.eq_nil_or_concat after with rfl | ⟨after, last, rfl⟩
      · obtain ⟨rfl, he⟩ := List.append_inj' hpast rfl
        obtain rfl : e = ⟨action, reply⟩ := by simpa using he
        exact ⟨next, h⟩
      · have hsplit : (before ++ e :: after) ++ [last] = past ++ [⟨action, reply⟩] := by
          simpa using hpast
        exact ih (List.append_inj' hsplit rfl).1

/-- Wherever the script can come to, with these events behind it at first, `I` holds of the
events behind it and of what it does next. -/
def Along (I : List (Event κ) → Front κ α → Prop) : Script κ α → List (Event κ) → Prop
  | done a, past => I past (.ends a)
  | act action next, past =>
      I past (.takes action) ∧ ∀ reply, (next reply).Along I (past ++ [⟨action, reply⟩])

@[simp] theorem along_done {a : α} {past : List (Event κ)} :
    (done a : Script κ α).Along I past ↔ I past (.ends a) := Iff.rfl

theorem Along.front {s : Script κ α} {past : List (Event κ)} (h : s.Along I past) :
    I past s.front := by
  cases s with
  | done a => exact h
  | act action next => exact h.1

theorem Along.of_path {s rest : Script κ α} {past : List (Event κ)} (h : s.Along I [])
    (hpath : s.Path past rest) : rest.Along I past := by
  induction hpath with
  | start => exact h
  | step _ reply ih => exact ih.2 reply

theorem Along.mono (hIJ : ∀ past front, I past front → J past front) {s : Script κ α}
    {past : List (Event κ)} (h : s.Along I past) : s.Along J past := by
  induction s generalizing past with
  | done a => exact hIJ _ _ h
  | act action next ih => exact ⟨hIJ _ _ h.1, fun reply => ih reply (h.2 reply)⟩

/-- What holds on all paths from the start holds on them after other events. -/
theorem Along.after {s : Script κ α} (past : List (Event κ)) {later : List (Event κ)}
    (h : s.Along (fun later front => I (past ++ later) front) later) :
    s.Along I (past ++ later) := by
  induction s generalizing later with
  | done a => exact h
  | act action next ih =>
      refine ⟨h.1, fun reply => ?_⟩
      rw [List.append_assoc]
      exact ih reply (h.2 reply)

theorem along_bind {I : List (Event κ) → Front κ β → Prop} {s : Script κ α}
    {f : α → Script κ β} {past : List (Event κ)} :
    (s.bind f).Along I past ↔
      s.Along (fun past front => match front with
        | .takes action => I past (.takes action)
        | .ends a => (f a).Along I past) past := by
  induction s generalizing past with
  | done a => exact Iff.rfl
  | act action next ih =>
      simp only [bind, Along]
      exact and_congr Iff.rfl (forall_congr' fun reply => ih reply)

end Script

end ClusterAccess
