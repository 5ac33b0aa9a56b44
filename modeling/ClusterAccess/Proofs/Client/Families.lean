import ClusterAccess.Proofs.Client.Matching

/-!
The caches of the families beside each other. All of them share a factory, which builds for each
and may use the cache that it builds for while it does so. What one family sees is what it would
see if it were alone, except for the numbers that tell the instances of clients apart, since those
count what is built for the other families as well.
-/

namespace ClusterAccess

variable {κ σ α : Type}

def Client.map {κ' : Type} (f : κ → κ') (client : Client κ) : Client κ' :=
  ⟨client.identity, f client.handle⟩

def CacheAnswer.map {κ' : Type} (f : κ → κ') : CacheAnswer κ → CacheAnswer κ'
  | client result => client (result.map (Client.map f))
  | truth value => truth value
  | count value => count value
  | nothing => nothing

/-- What a factory does to the cache that it builds for. Each use may depend on the answers to
those before it, but not on which instances of clients were in them. -/
inductive Visits (κ : Type) where
  | done
  | use (u : CacheUse) (next : CacheAnswer κ → Visits κ)

/-- A factory that has nothing of its own to remember. While it builds a client it may use the cache
of the client's family, where it can be entered again for whatever is missing there. -/
structure Blueprint (κ : Type) where
  builds : Family → Identity → Except Fault (Client κ)
  visits : Family → Identity → Visits κ

/-- A client that is built is an instance with the next number. -/
def numbered (answer : Except Fault (Client κ)) :
    StateM (ClientCache (κ × Nat) × Nat) (Except Fault (Client (κ × Nat))) := fun (cache, next) =>
  match answer with
  | .error fault => (.error fault, (cache, next))
  | .ok client => (.ok (client.map (·, next)), (cache, next + 1))

def Visits.run (factory : ClientCache.Factory Nat (κ × Nat)) :
    Visits κ → StateM (ClientCache (κ × Nat) × Nat) Unit
  | done => pure ()
  | use u next => do
    let answer ← ClientCache.use factory u
    (next (answer.map Prod.fst)).run factory

def Blueprint.factory (b : Blueprint κ) : (depth : Nat) → ClientCache.Factory Nat (κ × Nat)
  | 0 => fun family id => numbered (b.builds family id)
  | depth + 1 => fun family id => do
    (b.visits family id).run (b.factory depth)
    numbered (b.builds family id)

/-! ### Two runs beside each other -/

/-- The second instance has the number that stands in the list for the number of the first. -/
def Renumbers (names : List Nat) (a b : κ × Nat) : Prop := a.1 = b.1 ∧ names[a.2]? = some b.2

theorem Renumbers.mono {names names' : List Nat} {a b : κ × Nat} (hgrown : names <+: names')
    (h : Renumbers names a b) : Renumbers names' a b := by
  obtain ⟨rest, rfl⟩ := hgrown
  obtain ⟨hkept, hname⟩ := h
  have hlt := (List.getElem?_eq_some_iff.mp hname).1
  exact ⟨hkept, by rw [List.getElem?_append_left hlt, hname]⟩

/-- A cache that is used alone stands beside one that is not: they match, and the list has the
number in the second run for each number that was given in the first. -/
structure Beside (names : List Nat) (s t : ClientCache (κ × Nat) × Nat) : Prop where
  count : names.length = s.2
  increasing : names.Pairwise (· < ·)
  below : ∀ n ∈ names, n < t.2
  cache : s.1.Matches (Renumbers names) t.1

theorem Beside.empty (family : Family) (capacity next : Nat) :
    Beside (κ := κ) [] (.empty family capacity, 0) (.empty family capacity, next) :=
  ⟨rfl, .nil, by simp, rfl, rfl, rfl, .nil⟩

theorem Beside.later {names : List Nat} {s t : ClientCache (κ × Nat) × Nat} {next : Nat}
    (h : Beside names s t) (hnext : t.2 ≤ next) : Beside names s (t.1, next) :=
  ⟨h.count, h.increasing, fun n hn => Nat.lt_of_lt_of_le (h.below n hn) hnext, h.cache⟩

/-- From states beside each other the action leads to such states again, with answers that are
related by the numbers given by then. The list of numbers only grows, so whatever was related
before stays so. -/
def Parallel (rel : List Nat → α → α → Prop)
    (act : StateM (ClientCache (κ × Nat) × Nat) α) : Prop :=
  ∀ names s t, Beside names s t → ∃ names', names <+: names' ∧ t.2 ≤ (act t).2.2 ∧
    Beside names' (act s).2 (act t).2 ∧ rel names' (act s).1 (act t).1

def SameResult (names : List Nat) (a b : Except Fault (Client (κ × Nat))) : Prop :=
  ResultsMatch (Renumbers names) a b

def SameAnswer (names : List Nat) (a b : CacheAnswer (κ × Nat)) : Prop :=
  a.Matches (Renumbers names) b

theorem parallel_numbered (answer : Except Fault (Client κ)) :
    Parallel SameResult (numbered answer) := by
  rintro names ⟨c, k⟩ ⟨d, n⟩ ⟨hcount, hincreasing, hbelow, hcache⟩
  dsimp only at hcount hbelow hcache
  cases answer with
  | error fault =>
      exact ⟨names, List.prefix_rfl, Nat.le_refl n, ⟨hcount, hincreasing, hbelow, hcache⟩,
        .error fault⟩
  | ok client =>
      -- The client's number in the first run is how many were built there before it.
      have hgrown : names <+: names ++ [n] := List.prefix_append _ _
      refine ⟨names ++ [n], hgrown, Nat.le_succ n, ⟨?_, ?_, ?_, ?_⟩, .ok ⟨rfl, rfl, ?_⟩⟩
      · simp [numbered, hcount]
      · refine List.pairwise_append.mpr ⟨hincreasing, List.pairwise_singleton _ _, ?_⟩
        intro a ha b hb
        obtain rfl := List.mem_singleton.mp hb
        exact hbelow a ha
      · intro a ha
        rcases List.mem_append.mp ha with ha | ha
        · exact Nat.lt_succ_of_lt (hbelow a ha)
        · exact List.mem_singleton.mp ha ▸ Nat.lt_succ_self n
      · exact hcache.imp fun _ _ h => h.mono hgrown
      · simp [Client.map, ← hcount]

section

variable {factory : ClientCache.Factory Nat (κ × Nat)}

theorem parallel_get (hfactory : ∀ family id, Parallel SameResult (factory family id))
    (id : Identity) : Parallel SameResult (ClientCache.get factory id) := by
  rintro names ⟨c, k⟩ ⟨d, n⟩ h
  rw [ClientCache.get_eq, ClientCache.get_eq]
  have hfound := h.cache.client? id
  have hlookup : Beside names ((c.lookup id).2, k) ((d.lookup id).2, n) :=
    ⟨h.count, h.increasing, h.below, h.cache.lookup id⟩
  dsimp only at hfound
  generalize c.client? id = found, d.client? id = found' at hfound
  cases hfound with
  | some hclient => exact ⟨names, List.prefix_rfl, Nat.le_refl n, hlookup, .ok hclient⟩
  | none =>
      obtain ⟨names', hgrown, hnext, hbeside, hresult⟩ := hfactory c.family id names _ _ hlookup
      rw [show d.family = c.family from h.cache.family.symm]
      dsimp only
      generalize factory c.family id ((c.lookup id).2, k) = alone,
        factory c.family id ((d.lookup id).2, n) = joint at hnext hbeside hresult ⊢
      obtain ⟨result, c', k'⟩ := alone
      obtain ⟨result', d', n'⟩ := joint
      dsimp only at hnext hbeside hresult ⊢
      cases hresult with
      | error fault => exact ⟨names', hgrown, hnext, hbeside, .error fault⟩
      | @ok built built' hbuilt =>
          dsimp only
          by_cases hid : built.identity = id
          · have hid' : built'.identity = id := hbuilt.identity ▸ hid
            rw [if_pos hid, if_pos hid']
            obtain ⟨hclient, hstored⟩ := hbeside.cache.store id hbuilt
            exact ⟨names', hgrown, hnext,
              ⟨hbeside.count, hbeside.increasing, hbeside.below, hstored⟩, .ok hclient⟩
          · have hid' : built'.identity ≠ id := hbuilt.identity ▸ hid
            rw [if_neg hid, if_neg hid', ← hbuilt.identity]
            exact ⟨names', hgrown, hnext, hbeside, .error _⟩

theorem parallel_use (hfactory : ∀ family id, Parallel SameResult (factory family id))
    (u : CacheUse) : Parallel SameAnswer (ClientCache.use factory u) := by
  rintro names ⟨c, k⟩ ⟨d, n⟩ h
  cases u with
  | get id =>
      obtain ⟨names', hgrown, hnext, hbeside, hresult⟩ := parallel_get hfactory id names _ _ h
      exact ⟨names', hgrown, hnext, hbeside, .client hresult⟩
  | contains id =>
      refine ⟨names, List.prefix_rfl, Nat.le_refl n, h, ?_⟩
      have hcontains : c.contains id = d.contains id := h.cache.contains_eq id
      show CacheAnswer.Matches _ (.truth (c.contains id)) (.truth (d.contains id))
      rw [hcontains]
      exact .truth _
  | size =>
      refine ⟨names, List.prefix_rfl, Nat.le_refl n, h, ?_⟩
      have hsize : c.size = d.size := h.cache.size_eq
      show CacheAnswer.Matches _ (.count c.size) (.count d.size)
      rw [hsize]
      exact .count _
  | isEmpty =>
      refine ⟨names, List.prefix_rfl, Nat.le_refl n, h, ?_⟩
      have hempty : c.isEmpty = d.isEmpty := h.cache.isEmpty_eq
      show CacheAnswer.Matches _ (.truth c.isEmpty) (.truth d.isEmpty)
      rw [hempty]
      exact .truth _
  | clear =>
      exact ⟨names, List.prefix_rfl, Nat.le_refl n,
        ⟨h.count, h.increasing, h.below, h.cache.clear⟩, .nothing⟩

theorem SameAnswer.map_fst {names : List Nat} {a b : CacheAnswer (κ × Nat)}
    (h : SameAnswer names a b) : a.map Prod.fst = b.map Prod.fst := by
  cases h with
  | client h =>
      cases h with
      | error fault => rfl
      | ok h =>
          show CacheAnswer.client (.ok (Client.map _ _)) = .client (.ok (Client.map _ _))
          rw [Client.map, Client.map, h.identity, h.handle.1]
  | truth value => rfl
  | count value => rfl
  | nothing => rfl

theorem parallel_visits (hfactory : ∀ family id, Parallel SameResult (factory family id))
    (visits : Visits κ) : Parallel (fun _ _ _ => True) (visits.run factory) := by
  induction visits with
  | done =>
      intro names s t h
      exact ⟨names, List.prefix_rfl, Nat.le_refl _, h, trivial⟩
  | use u next ih =>
      intro names s t h
      obtain ⟨names₁, hgrown₁, hnext₁, h₁, hanswer⟩ := parallel_use hfactory u names s t h
      obtain ⟨names₂, hgrown₂, hnext₂, h₂, -⟩ :=
        ih ((ClientCache.use factory u s).1.map Prod.fst) names₁ _ _ h₁
      have hrun (s) : (Visits.use u next).run factory s =
          (next ((ClientCache.use factory u s).1.map Prod.fst)).run factory
            (ClientCache.use factory u s).2 := rfl
      rw [hrun, hrun, ← hanswer.map_fst]
      exact ⟨names₂, hgrown₁.trans hgrown₂, Nat.le_trans hnext₁ hnext₂, h₂, trivial⟩

end

/-- Building does the same in both runs, however deep the factory is entered again. -/
theorem Blueprint.parallel_factory (b : Blueprint κ) (depth : Nat) (family : Family)
    (id : Identity) : Parallel SameResult (b.factory depth family id) := by
  induction depth generalizing family id with
  | zero => exact parallel_numbered _
  | succ depth ih =>
      intro names s t h
      obtain ⟨names₁, hgrown₁, hnext₁, h₁, -⟩ := parallel_visits ih (b.visits family id) names s t h
      obtain ⟨names₂, hgrown₂, hnext₂, h₂, hresult⟩ :=
        parallel_numbered (b.builds family id) names₁ _ _ h₁
      exact ⟨names₂, hgrown₁.trans hgrown₂, Nat.le_trans hnext₁ hnext₂, h₂, hresult⟩

/-! ### What is seen of a family -/

structure Observation (κ : Type) where
  answer : CacheAnswer κ
  cache : ClientCache κ

structure Observation.Matches {κ' : Type} (R : κ → κ' → Prop) (a : Observation κ)
    (b : Observation κ') : Prop where
  answer : a.answer.Matches R b.answer
  cache : a.cache.Matches R b.cache

theorem Observation.Matches.imp {κ' : Type} {R S : κ → κ' → Prop} {a : Observation κ}
    {b : Observation κ'} (hRS : ∀ x y, R x y → S x y) (h : a.Matches R b) : a.Matches S b :=
  ⟨h.answer.imp hRS, h.cache.imp hRS⟩

def ClientCache.observed (factory : Factory σ κ) (u : CacheUse) :
    StateM (ClientCache κ × σ) (Observation κ) := fun s =>
  let (answer, (cache, s)) := use factory u s
  (⟨answer, cache⟩, (cache, s))

def ClientRegistry.observed (factory : ClientCache.Factory σ κ) (op : Family × CacheUse) :
    StateM (ClientRegistry κ × σ) (Observation κ) :=
  onFamily op.1 (ClientCache.observed factory op.2)

def usesOf (family : Family) (ops : List (Family × CacheUse)) : List CacheUse :=
  ops.filterMap fun op => if op.1 = family then some op.2 else none

/-- What is seen of one family when all operations are seen one after the other. -/
def seenOf (family : Family) (ops : List (Family × CacheUse)) (seen : List (Observation κ)) :
    List (Observation κ) :=
  (ops.zip seen).filterMap fun (op, o) => if op.1 = family then some o else none

def SameSight (names : List Nat) (a b : Observation (κ × Nat)) : Prop :=
  a.Matches (Renumbers names) b

theorem parallel_observed (b : Blueprint κ) (depth : Nat) (u : CacheUse) :
    Parallel SameSight (ClientCache.observed (b.factory depth) u) := by
  intro names s t h
  obtain ⟨names', hgrown, hnext, hbeside, hanswer⟩ :=
    parallel_use (b.parallel_factory depth) u names s t h
  exact ⟨names', hgrown, hnext, hbeside, hanswer, hbeside.cache⟩

namespace ClientRegistry

variable {family other : Family} (act : StateM (ClientCache κ × σ) α) (r : ClientRegistry κ) (s : σ)

/-- An operation on one family leaves the caches of the others as they are. -/
theorem cache_onFamily_of_ne (hne : other ≠ family) :
    (onFamily family act (r, s)).2.1.cache other = r.cache other := by
  show (r.setCache family (act (r.cache family, s)).2.1).cache other = r.cache other
  rw [cache_setCache, if_neg hne]

theorem cache_onFamily_self :
    (onFamily family act (r, s)).2.1.cache family = (act (r.cache family, s)).2.1 := by
  show (r.setCache family (act (r.cache family, s)).2.1).cache family = _
  rw [cache_setCache, if_pos rfl]

end ClientRegistry

section

variable (b : Blueprint κ) (depth : Nat) {r : ClientRegistry (κ × Nat)} {n : Nat}

def AllBeside (r : ClientRegistry (κ × Nat)) (n : Nat) : Prop :=
  ∀ family, ∃ names s, Beside names s (r.cache family, n)

theorem AllBeside.observed (h : AllBeside r n) (op : Family × CacheUse) :
    let t := (ClientRegistry.observed (b.factory depth) op (r, n)).2
    n ≤ t.2 ∧ AllBeside t.1 t.2 := by
  intro t
  obtain ⟨used, u⟩ := op
  obtain ⟨names, s, hbeside⟩ := h used
  obtain ⟨names', -, hnext, hbeside', -⟩ := parallel_observed b depth u names s _ hbeside
  refine ⟨hnext, fun family => ?_⟩
  by_cases hused : family = used
  · subst hused
    have hcache : t.1.cache family =
        (ClientCache.observed (b.factory depth) u (r.cache family, n)).2.1 :=
      ClientRegistry.cache_onFamily_self _ _ _
    rw [hcache]
    exact ⟨names', _, hbeside'⟩
  · have hcache : t.1.cache family = r.cache family :=
      ClientRegistry.cache_onFamily_of_ne _ _ _ hused
    obtain ⟨names, s, hother⟩ := h family
    rw [hcache]
    exact ⟨names, s, hother.later hnext⟩

/-- One family's run alone beside the run of all: from matching states on, what is seen of the
family is the same but for the numbers. -/
theorem exists_names_of_beside (family : Family) (ops : List (Family × CacheUse))
    {names : List Nat} {s : ClientCache (κ × Nat) × Nat} (h : Beside names s (r.cache family, n))
    (hall : AllBeside r n) :
    ∃ names', names <+: names' ∧ names'.Pairwise (· < ·) ∧
      List.Forall₂ (SameSight names')
        ((usesOf family ops).mapM (ClientCache.observed (b.factory depth)) s).1
        (seenOf family ops (ops.mapM (ClientRegistry.observed (b.factory depth)) (r, n)).1) := by
  induction ops generalizing names s r n with
  | nil => exact ⟨names, List.prefix_rfl, h.increasing, .nil⟩
  | cons op ops ih =>
      -- What the other families do has to keep their caches in order as well.
      obtain ⟨hnext, hall'⟩ := hall.observed b depth op
      obtain ⟨used, u⟩ := op
      rw [mapM_cons_run]
      by_cases hused : used = family
      · subst hused
        obtain ⟨names₁, hgrown₁, -, hbeside, hsight⟩ := parallel_observed b depth u names s _ h
        have hbeside' : Beside names₁ (ClientCache.observed (b.factory depth) u s).2
            ((ClientRegistry.observed (b.factory depth) (used, u) (r, n)).2.1.cache used,
              (ClientRegistry.observed (b.factory depth) (used, u) (r, n)).2.2) := by
          rw [ClientRegistry.observed, ClientRegistry.cache_onFamily_self]
          exact hbeside
        obtain ⟨names₂, hgrown₂, hincreasing, hsights⟩ := ih hbeside' hall'
        refine ⟨names₂, hgrown₁.trans hgrown₂, hincreasing, ?_⟩
        have hfirst : SameSight names₂ (ClientCache.observed (b.factory depth) u s).1
            (ClientRegistry.observed (b.factory depth) (used, u) (r, n)).1 :=
          hsight.imp fun _ _ hname => hname.mono hgrown₂
        have huses : usesOf used ((used, u) :: ops) = u :: usesOf used ops := by simp [usesOf]
        rw [huses, mapM_cons_run]
        simpa [seenOf] using ⟨hfirst, hsights⟩
      · -- The cache is left alone, but numbers may have been given for the other family.
        have hcache : (ClientRegistry.observed (b.factory depth) (used, u) (r, n)).2.1.cache
            family = r.cache family := ClientRegistry.cache_onFamily_of_ne _ _ _ (Ne.symm hused)
        obtain ⟨names', hgrown, hincreasing, hsights⟩ := ih (hcache ▸ h.later hnext) hall'
        refine ⟨names', hgrown, hincreasing, ?_⟩
        simpa [usesOf, seenOf, hused] using hsights

end

/-- Whatever is done with the caches in whatever order, and whatever the factory does with the cache
that it builds for: an operation on one family leaves the others' caches as they are, and each
answer of a family's cache and all that the cache holds after it, with the order in which it was
served, are those of a cache of its capacity on which only this family's operations are done. Only
the instances have other numbers, in the same order. -/
theorem families_are_independent (capacities : CacheCapacities) (b : Blueprint κ) (depth : Nat)
    (ops : List (Family × CacheUse)) (family : Family) :
    (∀ (r : ClientRegistry (κ × Nat)) (n : Nat) (op : Family × CacheUse), op.1 ≠ family →
      (ClientRegistry.observed (b.factory depth) op (r, n)).2.1.cache family = r.cache family) ∧
    ∃ names : List Nat, names.Pairwise (· < ·) ∧
      List.Forall₂ (SameSight names)
        ((usesOf family ops).mapM (ClientCache.observed (b.factory depth))
          (.empty family (capacities.of family), 0)).1
        (seenOf family ops (ops.mapM (ClientRegistry.observed (b.factory depth))
          (.empty capacities, 0)).1) := by
  have hcache (family : Family) : (ClientRegistry.empty capacities).cache family =
      (.empty family (capacities.of family) : ClientCache (κ × Nat)) := by
    cases family <;> rfl
  have hbeside (family : Family) : Beside (κ := κ) [] (.empty family (capacities.of family), 0)
      ((ClientRegistry.empty capacities).cache family, 0) :=
    hcache family ▸ .empty family _ 0
  obtain ⟨names, -, hincreasing, hsights⟩ := exists_names_of_beside b depth family ops
    (hbeside family) fun other => ⟨[], _, hbeside other⟩
  exact ⟨fun r n op hop => ClientRegistry.cache_onFamily_of_ne _ _ _ (Ne.symm hop), names,
    hincreasing, hsights⟩

/-- A user's core client is built after one for storage, and is seen as if it were built alone. -/
theorem core_client_seen_as_if_alone :
    let b : Blueprint Unit := ⟨fun _ id => .ok ⟨id, ()⟩, fun _ _ => .use .size fun _ => .done⟩
    let ops : List (Family × CacheUse) := [(.storage, .get ⟨"alice"⟩), (.core, .get ⟨"alice"⟩)]
    (ClientRegistry.observed (b.factory 1) (.storage, .get ⟨"alice"⟩) (.empty {}, 0)).2.1.cache
        .core = ClientRegistry.cache (.empty {}) .core ∧
      ∃ names : List Nat, List.Forall₂ (SameSight names)
        ((usesOf .core ops).mapM (ClientCache.observed (b.factory 1))
          (.empty .core (CacheCapacities.of {} .core), 0)).1
        (seenOf .core ops (ops.mapM (ClientRegistry.observed (b.factory 1)) (.empty {}, 0)).1) := by
  intro b ops
  obtain ⟨hkept, names, -, hsights⟩ := families_are_independent {} b 1 ops .core
  exact ⟨hkept (.empty {}) 0 (.storage, .get ⟨"alice"⟩) (by decide), names, hsights⟩

end ClusterAccess
