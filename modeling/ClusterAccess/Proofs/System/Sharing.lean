import ClusterAccess.Proofs.Client.Sharing
import ClusterAccess.Proofs.System.Isolation

/-!
Requests that race for a client agree on one. Two of them may both miss and both build; the first
to store wins, and the other gets what was stored. So it is in every interleaving, with requests
that a factory makes while it builds and with caches that are cleared in between: what a request
brings is what the cache keeps when the request ends, and that stays until it leaves the cache.
Handles tell instances apart, since a factory may give every client that it builds its own.
-/

namespace ClusterAccess

variable {κ : Type} {gate : AuthorizationGate} {capacities : CacheCapacities}

/-- The client with which a request for one ends here, with the family and the identity asked
for: the look-up found it or the store kept it. -/
def Event.delivered? : Event κ → Option (Family × Identity × Client κ)
  | ⟨.lookup family id, some client⟩ => some (family, id, client)
  | ⟨.store family id _, kept⟩ => some (family, id, kept)
  | _ => none

theorem ClientStage.delivered_of_ends {family : Family} {id : Identity} {used : List (Event κ)}
    {e : Event κ} {client : Client κ}
    (h : ClientStage family id (used ++ [e]) (.ends (.ok client))) :
    e.delivered? = some (family, id, client) := by
  generalize hused : used ++ [e] = past at h
  cases h with
  | hit =>
      obtain ⟨-, rfl⟩ : used = [] ∧ e = ⟨.lookup family id, some client⟩ := by
        simpa [List.append_eq_singleton_iff] using hused
      rfl
  | stored built kept hid =>
      have hlast := congrArg List.getLast? hused
      obtain rfl : e = ⟨.store family id built, client⟩ := by simpa using hlast
      rfl

namespace ClientRegistry

variable {r : ClientRegistry κ} {answers : Answers κ} {action : Action κ} {family : Family}
  {id : Identity} {client : Client κ}

def client? (r : ClientRegistry κ) (family : Family) (id : Identity) : Option (Client κ) :=
  (r.cache family).client? id

theorem Ordered.act (h : Ordered capacities r) (answers : Answers κ) (action : Action κ) :
    Ordered capacities (r.act answers action).2 := by
  cases action with
  | lookup family id =>
      exact h.setCache ((h family).1.lookup id) ClientCache.capacity_lookup
  | store family id built =>
      exact h.setCache ((h family).1.store id built) ClientCache.capacity_store
  | build family id => simpa using h
  | _ => exact h

theorem client?_setCache (c : ClientCache κ) (family other : Family) (id : Identity) :
    (r.setCache family c).client? other id =
      if other = family then c.client? id else r.client? other id := by
  rw [client?, cache_setCache]
  split <;> rfl

theorem fst_act_lookup (answers : Answers κ) (family : Family) (id : Identity) :
    (r.act answers (.lookup family id)).1 = r.client? family id := ClientCache.lookup_fst

theorem client?_act_lookup (answers : Answers κ) (other : Family) (key : Identity) :
    (r.act answers (.lookup other key)).2.client? family id = r.client? family id := by
  show (r.setCache other ((r.cache other).lookup key).2).client? family id = _
  rw [client?_setCache]
  split
  next heq =>
    subst heq
    exact ClientCache.client?_lookup
  next => rfl

theorem client?_act_store (answers : Answers κ) (family : Family) (id : Identity)
    (built : Client κ) :
    (r.act answers (.store family id built)).2.client? family id =
      some ((r.client? family id).getD built) := by
  show (r.setCache family ((r.cache family).store id built).2).client? family id = _
  rw [client?_setCache, if_pos rfl, ClientCache.client?_store_self]
  rfl

/-- The client with which a request ends is in the cache afterwards. It was there before, unless
it is the one that the request built. -/
theorem client?_of_delivered
    (h : Event.delivered? ⟨action, (r.act answers action).1⟩ = some (family, id, client)) :
    (r.act answers action).2.client? family id = some client ∧
      ∀ kept, r.client? family id = some kept → client = kept := by
  cases action with
  | lookup other key =>
      rw [fst_act_lookup] at h
      cases hfound : r.client? other key with
      | none => simp [hfound, Event.delivered?] at h
      | some found =>
          obtain ⟨rfl, rfl, rfl⟩ : other = family ∧ key = id ∧ found = client := by
            simpa [hfound, Event.delivered?] using h
          refine ⟨?_, fun kept hkept => Option.some.inj (hfound.symm.trans hkept)⟩
          rw [client?_act_lookup, hfound]
  | store other key built =>
      have hserved : some (other, key, ((r.cache other).store key built).1) =
          some (family, id, client) := h
      rw [ClientCache.store_fst] at hserved
      obtain ⟨rfl, rfl, rfl⟩ : other = family ∧ key = id ∧
          ((r.cache other).client? key).getD built = client := by simpa using hserved
      refine ⟨client?_act_store answers other key built, fun kept hkept => ?_⟩
      rw [client?] at hkept
      rw [hkept, Option.getD_some]
  | _ => simp [Event.delivered?] at h

theorem client?_act_of_some (h : r.client? family id = some client) (answers : Answers κ)
    (action : Action κ) :
    (r.act answers action).2.client? family id = none ∨
      (r.act answers action).2.client? family id = some client := by
  cases action with
  | lookup other key => exact .inr (by rw [client?_act_lookup, h])
  | store other key built =>
      by_cases hsame : family = other ∧ id = key
      · obtain ⟨rfl, rfl⟩ := hsame
        exact .inr (by rw [client?_act_store, h, Option.getD_some])
      · show (r.setCache other ((r.cache other).store key built).2).client? family id = none ∨
          (r.setCache other ((r.cache other).store key built).2).client? family id = some client
        rw [client?_setCache]
        split
        next heq =>
          subst heq
          have hne : id ≠ key := fun heq => hsame ⟨rfl, heq⟩
          exact (ClientCache.client?_store_of_ne hne).imp_right fun hkept => hkept.trans h
        next => exact .inr h
  | build other key => exact .inr (by simpa using h)
  | _ => exact .inr h

end ClientRegistry

namespace System

/-- A step with which some request for the client of an identity in a family ends, and the client
that it brings. -/
inductive Delivers (family : Family) (id : Identity) (client : Client κ) :
    System κ → System κ → Prop
  | act {registry : ClientRegistry κ} {before after : List (Task κ)} {job : Job}
      {past : List (Event κ)} {action : Action κ}
      {next : action.Reply → Script κ (job.Result κ)} (answers : Answers κ)
      (hdelivered : Event.delivered? ⟨action, (registry.act answers action).1⟩ =
        some (family, id, client)) :
      Delivers family id client ⟨registry, before ++ ⟨job, past, .act action next⟩ :: after⟩
        ⟨(registry.act answers action).2,
          before ++ ⟨job, past ++ [⟨action, (registry.act answers action).1⟩],
            next (registry.act answers action).1⟩ :: after⟩

/-- Any number of steps, none of which takes an identity out of the cache of a family: it neither
has to make room nor is cleared away. -/
inductive Retains (gate : AuthorizationGate) (family : Family) (id : Identity) :
    System κ → System κ → Prop
  | refl (s : System κ) : Retains gate family id s s
  | step {s t u : System κ} (h : Retains gate family id s t) (hstep : Step gate t u)
      (hkept : (t.registry.cache family).contains id = true →
        (u.registry.cache family).contains id = true) :
      Retains gate family id s u

variable {s s' t : System κ} {family : Family} {id : Identity} {client : Client κ}

theorem Step.ordered (hstep : Step gate s s') (h : s.registry.Ordered capacities) :
    s'.registry.Ordered capacities := by
  cases hstep with
  | start job => exact h
  | clear family => exact h.setCache (ClientCache.ordered_clear _) rfl
  | act answers => exact h.act answers _

theorem Reachable.ordered (h : Reachable gate capacities s) : s.registry.Ordered capacities := by
  induction h with
  | fresh => exact ClientRegistry.ordered_empty capacities
  | step _ hstep ih => exact hstep.ordered ih

/-- A step takes a client out of its cache or leaves it there. -/
theorem Step.client?_of_some (hstep : Step gate s s')
    (h : s.registry.client? family id = some client) :
    s'.registry.client? family id = none ∨ s'.registry.client? family id = some client := by
  cases hstep with
  | start job => exact .inr h
  | clear other =>
      show (ClientRegistry.setCache _ other _).client? family id = none ∨
        (ClientRegistry.setCache _ other _).client? family id = some client
      rw [ClientRegistry.client?_setCache]
      split
      · exact .inl ClientCache.client?_clear
      · exact .inr h
  | act answers => exact ClientRegistry.client?_act_of_some h answers _

theorem Retains.client? (h : Retains gate family id s t)
    (hs : s.registry.client? family id = some client) :
    t.registry.client? family id = some client := by
  induction h with
  | refl => exact hs
  | @step t u _ hstep hkept ih =>
      -- The identity is still there, and no step puts another client in its place.
      have hcontains : (u.registry.cache family).contains id = true := by
        refine hkept ?_
        rw [ClientCache.contains_eq]
        exact Option.isSome_iff_exists.mpr ⟨client, ih⟩
      rw [ClientCache.contains_eq] at hcontains
      rcases hstep.client?_of_some ih with hnone | hsome
      · rw [ClientRegistry.client?] at hnone
        simp [hnone] at hcontains
      · exact hsome

theorem Delivers.client? (h : Delivers family id client s s') :
    s'.registry.client? family id = some client := by
  cases h with
  | act answers hdelivered => exact (ClientRegistry.client?_of_delivered hdelivered).1

theorem Delivers.eq_of_client? (h : Delivers family id client s s') {kept : Client κ}
    (hkept : s.registry.client? family id = some kept) : client = kept := by
  cases h with
  | act answers hdelivered => exact (ClientRegistry.client?_of_delivered hdelivered).2 kept hkept

/-- A request that is a job of its own ends with success only as it is delivered a client. -/
theorem Reachable.delivered_of_done (h : Reachable gate capacities s)
    {before after : List (Task κ)} {past : List (Event κ)} {action : Action κ}
    {next : action.Reply → Script κ (Except Fault (Client κ))}
    (htasks : s.tasks = before ++ ⟨.client family id, past, .act action next⟩ :: after)
    {reply : action.Reply} (hdone : next reply = .done (.ok client)) :
    Event.delivered? ⟨action, reply⟩ = some (family, id, client) := by
  have htask := h.sound.tasks ⟨.client family id, past, .act action next⟩ (by simp [htasks])
  have hpath : (Script.obtain family id).Path (past ++ [⟨action, reply⟩]) (next reply) :=
    htask.path.step reply
  have hstage := ((along_obtain family id).of_path hpath).front
  rw [hdone] at hstage
  exact hstage.delivered_of_ends

def aboutToStore (family : Family) (id : Identity) (built : Client κ) : Task κ :=
  ⟨.client family id, [⟨.lookup family id, none⟩, ⟨.build family id, .ok built⟩],
    .act (.store family id built) fun kept => .done (.ok kept)⟩

theorem Reachable.exists_aboutToStore (h : Reachable gate capacities s)
    (hmissing : s.registry.client? family id = none) {built : Client κ}
    (hid : built.identity = id) :
    ∃ r, r.client? family id = none ∧
      Reachable gate capacities ⟨r, aboutToStore family id built :: s.tasks⟩ := by
  have hmissed : (s.registry.act {} (.lookup family id)).1 = none := by
    rw [ClientRegistry.fst_act_lookup, hmissing]
  have hstart := h.step (.start (.client family id))
  rw [Job.script, Script.obtain_eq] at hstart
  have hlooked := hstart.step (@Step.act κ gate _ [] s.tasks _ _ _ _ {})
  rw [hmissed] at hlooked
  have hbuilt := hlooked.step (@Step.act κ gate _ [] s.tasks _ _ _ _ { client := .ok built })
  rw [ClientRegistry.act_build] at hbuilt
  simp only [if_pos hid] at hbuilt
  exact ⟨_, by rw [ClientRegistry.client?_act_lookup, hmissing], hbuilt⟩

theorem exists_delivers_of_aboutToStore (r : ClientRegistry κ) (before after : List (Task κ))
    (family : Family) (id : Identity) (built : Client κ) :
    ∃ task, Delivers family id (r.act {} (.store family id built)).1
      ⟨r, before ++ aboutToStore family id built :: after⟩
      ⟨(r.act {} (.store family id built)).2, before ++ task :: after⟩ :=
  ⟨_, .act {} rfl⟩

/-- Two requests for the same identity can both come to store what they have built. -/
theorem exists_race {first second : Client κ} (hfirst : first.identity = id)
    (hsecond : second.identity = id) :
    ∃ (s s₁ s₂ : System κ) (kept : Client κ), Reachable gate capacities s ∧
      s.tasks = [aboutToStore family id first, aboutToStore family id second] ∧
      Delivers family id first s s₁ ∧ Delivers family id kept s₁ s₂ := by
  have hempty : (ClientRegistry.empty capacities : ClientRegistry κ).client? family id = none := by
    cases family <;> rfl
  obtain ⟨r, hmissing, hone⟩ := Reachable.fresh.exists_aboutToStore hempty hsecond
  obtain ⟨r, hmissing, hboth⟩ := hone.exists_aboutToStore hmissing hfirst
  have hkept : (r.act {} (.store family id first)).1 = first := by
    refine ClientCache.store_fst.trans ?_
    rw [ClientRegistry.client?] at hmissing
    rw [hmissing, Option.getD_none]
  obtain ⟨task, hwins⟩ := exists_delivers_of_aboutToStore r []
    [aboutToStore family id second] family id first
  obtain ⟨_, hfollows⟩ := exists_delivers_of_aboutToStore _ [task] [] family id second
  rw [hkept] at hwins
  exact ⟨_, _, _, _, hboth, rfl, hwins, hfollows⟩

/-- In every reachable state a cache is within its capacity and has one client for each identity.
A request that succeeds brings what the cache keeps for the identity when it ends, storing never
takes away what was there for the identity, and all requests that end while the identity stays in
the cache bring the same client, even if each of them has built one. -/
theorem requests_agree_on_the_kept_client (h : Reachable gate capacities s) (family : Family)
    (id : Identity) :
    ((s.registry.cache family).size ≤ max (capacities.of family) 1 ∧
      (s.registry.cache family).entries.Pairwise fun a b => a.key ≠ b.key) ∧
    (∀ before after past (action : Action κ) next reply client,
      s.tasks = before ++ ⟨.client family id, past, .act action next⟩ :: after →
      next reply = .done (.ok client) →
      Event.delivered? ⟨action, reply⟩ = some (family, id, client)) ∧
    (∀ s' client, Delivers family id client s s' →
      s'.registry.client? family id = some client) ∧
    (∀ answers built, (s.registry.act answers (.store family id built)).2.client? family id =
      some ((s.registry.client? family id).getD built)) ∧
    (∀ first second s₁ s₂ s₃, Delivers family id first s s₁ → Retains gate family id s₁ s₂ →
      Delivers family id second s₂ s₃ → second = first) ∧
    ∀ (σ : Type) (factory : ClientCache.Factory σ κ) (c : ClientCache κ) (known : σ) client,
      (ClientCache.get factory id (c, known)).1 = .ok client →
      (ClientCache.get factory id (c, known)).2.1.client? id = some client := by
  have hordered := h.ordered family
  refine ⟨⟨?_, hordered.1.keys⟩, ?_, fun s' client hdelivers => hdelivers.client?, ?_, ?_,
    fun σ factory c known client => ClientCache.client?_get⟩
  · rw [← hordered.2]
    exact hordered.1.size_le
  · intro before after past action next reply client htasks hdone
    exact h.delivered_of_done htasks hdone
  · intro answers built
    exact ClientRegistry.client?_act_store answers family id built
  · intro first second s₁ s₂ s₃ hfirst hretains hsecond
    exact hsecond.eq_of_client? (hretains.client? hfirst.client?)

/-- Two requests for the same user that have each built a client of their own: the one that stores
second brings the client of the first. -/
theorem racing_builders_share_the_first :
    ∃ (s s₁ s₂ : System Nat) (second : Client Nat),
      Reachable ⟨.selective, false⟩ {} s ∧
      s.tasks = [aboutToStore .core ⟨"alice"⟩ ⟨⟨"alice"⟩, 1⟩,
        aboutToStore .core ⟨"alice"⟩ ⟨⟨"alice"⟩, 2⟩] ∧
      Delivers .core ⟨"alice"⟩ ⟨⟨"alice"⟩, 1⟩ s s₁ ∧ Delivers .core ⟨"alice"⟩ second s₁ s₂ ∧
      second = ⟨⟨"alice"⟩, 1⟩ := by
  obtain ⟨s, s₁, s₂, kept, h, htasks, hfirst, hsecond⟩ :=
    @exists_race Nat ⟨.selective, false⟩ {} .core ⟨"alice"⟩ ⟨⟨"alice"⟩, 1⟩ ⟨⟨"alice"⟩, 2⟩ rfl rfl
  obtain ⟨-, -, -, -, hagree, -⟩ := requests_agree_on_the_kept_client h .core ⟨"alice"⟩
  exact ⟨s, s₁, s₂, kept, h, htasks, hfirst, hsecond,
    hagree _ kept s₁ s₁ s₂ hfirst (.refl s₁) hsecond⟩

end System

end ClusterAccess
