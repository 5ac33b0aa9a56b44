import ClusterAccess.Proofs.Client.Sharing

/-!
A cache used by one after the other is a list of clients from the one served longest ago to the
last. The list says who has to go with no clock at all. The cache agrees with it on every answer
and on what it asks of the factory, and its times put its entries in the order of the list.
-/

namespace ClusterAccess

variable {κ σ : Type}

/-- Clients with whom they are kept for, from the one served longest ago to the last. One that is
served again moves to the end, a new one comes last, and the first of a full list makes room for
it. A capacity of zero counts as one. -/
structure LruList (κ : Type) where
  capacity : Nat
  served : List (Identity × Client κ)

namespace LruList

def empty (capacity : Nat) : LruList κ := ⟨max capacity 1, []⟩

def clear (m : LruList κ) : LruList κ := { m with served := [] }

def find? (m : LruList κ) (id : Identity) : Option (Client κ) :=
  (m.served.find? fun entry => entry.1 = id).map (·.2)

def ofEntries (capacity : Nat) (l : List (CacheEntry κ)) : LruList κ :=
  ⟨capacity, l.map fun e => (e.key, e.client)⟩

def serve (m : LruList κ) (id : Identity) (client : Client κ) : LruList κ :=
  { m with served := m.served.filter (fun entry => entry.1 ≠ id) ++ [(id, client)] }

def add (m : LruList κ) (id : Identity) (client : Client κ) : LruList κ :=
  { m with
    served := (if m.served.length < m.capacity then m.served else m.served.tail) ++
      [(id, client)] }

def get (build : Identity → StateM σ (Except Fault (Client κ))) (id : Identity) :
    StateM (LruList κ × σ) (Except Fault (Client κ)) := fun (m, s) =>
  match m.find? id with
  | some client => (.ok client, (m.serve id client, s))
  | none =>
    match build id s with
    | (.error f, s) => (.error f, (m, s))
    | (.ok client, s) =>
      if client.identity = id then (.ok client, (m.add id client, s))
      else (.error (ClientCache.misbound id client.identity), (m, s))

end LruList

/-! ### Uses -/

inductive CacheUse where
  | get (id : Identity)
  | contains (id : Identity)
  | size
  | isEmpty
  | clear

inductive CacheAnswer (κ : Type) where
  | client (result : Except Fault (Client κ))
  | truth (value : Bool)
  | count (value : Nat)
  | nothing

def ClientCache.use (factory : ClientCache.Factory σ κ) :
    CacheUse → StateM (ClientCache κ × σ) (CacheAnswer κ)
  | .get id => CacheAnswer.client <$> ClientCache.get factory id
  | .contains id => fun (c, s) => (.truth (c.contains id), (c, s))
  | .size => fun (c, s) => (.count c.size, (c, s))
  | .isEmpty => fun (c, s) => (.truth c.isEmpty, (c, s))
  | .clear => fun (c, s) => (.nothing, (c.clear, s))

def LruList.use (build : Identity → StateM σ (Except Fault (Client κ))) :
    CacheUse → StateM (LruList κ × σ) (CacheAnswer κ)
  | .get id => CacheAnswer.client <$> LruList.get build id
  | .contains id => fun (m, s) => (.truth (m.find? id).isSome, (m, s))
  | .size => fun (m, s) => (.count m.served.length, (m, s))
  | .isEmpty => fun (m, s) => (.truth m.served.isEmpty, (m, s))
  | .clear => fun (m, s) => (.nothing, (m.clear, s))

def recorded (build : Family → Identity → StateM σ (Except Fault (Client κ))) :
    Family → Identity → StateM (σ × List (Family × Identity)) (Except Fault (Client κ)) :=
  fun family id (s, asked) =>
    let (answer, s) := build family id s
    (answer, (s, asked ++ [(family, id)]))

/-! ### What a request comes to -/

namespace ClientCache

variable {c : ClientCache κ} {id : Identity} {e : CacheEntry κ}
  {build : Family → Identity → StateM σ (Except Fault (Client κ))}

theorem get_of_some (h : c.find? id = some e) (s : σ) :
    get (detached build) id (c, s) =
      (.ok e.client, ({ c with
        clock := c.clock + 1
        entries := touch id (c.clock + 1) c.entries }, s)) := by
  have hfound : c.client? id = some e.client := by rw [client?, h, Option.map_some]
  rw [get_eq, hfound, lookup_of_some h]

theorem get_of_none (h : c.find? id = none) (s : σ) :
    get (detached build) id (c, s) =
      match build c.family id s with
      | (.error f, s) => (.error f, ({ c with clock := c.clock + 1 }, s))
      | (.ok client, s) =>
        if client.identity = id then
          (.ok client, ((store { c with clock := c.clock + 1 } id client).2, s))
        else (.error (misbound id client.identity), ({ c with clock := c.clock + 1 }, s)) := by
  have hfound : c.client? id = none := by rw [client?, h, Option.map_none]
  rw [get_eq, hfound, lookup_of_none h]
  dsimp only [detached]
  rcases build c.family id s with ⟨f | client, s'⟩
  · rfl
  · have hagain : ({ c with clock := c.clock + 1 } : ClientCache κ).find? id = none := h
    dsimp only
    rw [store_of_none hagain]

end ClientCache

namespace LruList

variable {l : List (CacheEntry κ)} {capacity : Nat} {id : Identity} {client : Client κ}

theorem find?_ofEntries :
    (ofEntries capacity l).find? id = (l.find? fun e => e.key = id).map (·.client) := by
  rw [find?, ofEntries, List.find?_map, Option.map_map]
  rfl

theorem serve_ofEntries (time : Nat) :
    (ofEntries capacity l).serve id client =
      ofEntries capacity (l.filter (fun e => e.key ≠ id) ++ [⟨id, client, time⟩]) := by
  rw [serve, ofEntries, ofEntries, List.map_append, List.filter_map]
  rfl

theorem add_ofEntries (time : Nat) :
    (ofEntries capacity l).add id client =
      ofEntries capacity ((if l.length < capacity then l else l.tail) ++ [⟨id, client, time⟩]) := by
  rw [add, ofEntries, ofEntries, List.map_append, List.length_map, ← List.map_tail]
  split <;> rfl

end LruList

/-! ### One use after the other -/

/-- From this cache on, some uses brought the same to the cache and to the list. -/
structure Alike {α : Type} (c : ClientCache κ) (uses : Nat) (cached : α × ClientCache κ × σ)
    (listed : α × LruList κ × σ) : Prop where
  answer : cached.1 = listed.1
  surroundings : cached.2.2 = listed.2.2
  order : ∃ l, cached.2.1.InOrder l ∧ listed.2.1 = .ofEntries c.capacity l
  family : cached.2.1.family = c.family
  capacity : cached.2.1.capacity = c.capacity
  clock : cached.2.1.clock ≤ c.clock + 2 * uses

theorem mapM_cons_run {α β τ : Type} (f : α → StateM τ β) (a : α) (as : List α) (t : τ) :
    (a :: as).mapM f t =
      ((f a t).1 :: (as.mapM f (f a t).2).1, (as.mapM f (f a t).2).2) := by
  rw [List.mapM_cons]
  rfl

namespace ClientCache.InOrder

variable {c : ClientCache κ} {l : List (CacheEntry κ)}

theorem alike_get (h : c.InOrder l) (build : Family → Identity → StateM σ (Except Fault (Client κ)))
    (id : Identity) (s : σ) :
    Alike c 1 (get (detached build) id (c, s))
      (LruList.get (build c.family) id (.ofEntries c.capacity l, s)) := by
  have hfound : LruList.find? (.ofEntries c.capacity l) id = (c.find? id).map (·.client) := by
    rw [LruList.find?_ofEntries, h.find?_eq]
  unfold LruList.get
  cases hfind : c.find? id with
  | some e =>
      obtain ⟨hmem, rfl⟩ := (find?_eq_some_iff h.keys).mp (h.find?_eq id ▸ hfind)
      simp only [hfound, hfind, Option.map_some, get_of_some hfind]
      exact ⟨rfl, rfl, ⟨_, h.touch hmem, LruList.serve_ofEntries _⟩, rfl, rfl, by simp⟩
  | none =>
      simp only [hfound, hfind, Option.map_none, get_of_none hfind]
      rcases build c.family id s with ⟨f | client, s'⟩
      · exact ⟨rfl, rfl, ⟨l, h.tick, rfl⟩, rfl, rfl, by simp⟩
      · dsimp only
        split
        · have hmissing : ({ c with clock := c.clock + 1 } : ClientCache κ).find? id = none := hfind
          have horder := h.tick.store hmissing client
          rw [store_of_none hmissing] at horder ⊢
          exact ⟨rfl, rfl, ⟨_, horder, LruList.add_ofEntries _⟩, rfl, rfl, by simp⟩
        · exact ⟨rfl, rfl, ⟨l, h.tick, rfl⟩, rfl, rfl, by simp⟩

theorem alike_use (h : c.InOrder l) (build : Family → Identity → StateM σ (Except Fault (Client κ)))
    (use : CacheUse) (s : σ) :
    Alike c 1 (ClientCache.use (detached build) use (c, s))
      (LruList.use (build c.family) use (.ofEntries c.capacity l, s)) := by
  cases use with
  | get id =>
      obtain ⟨hanswer, hs, horder, hfamily, hcapacity, hclock⟩ := h.alike_get build id s
      exact ⟨congrArg CacheAnswer.client hanswer, hs, horder, hfamily, hcapacity, hclock⟩
  | contains id =>
      refine ⟨?_, rfl, ⟨l, h, rfl⟩, rfl, rfl, by simp [ClientCache.use]⟩
      show CacheAnswer.truth (c.contains id) = .truth (LruList.find? _ id).isSome
      rw [contains, h.find?_eq, LruList.find?_ofEntries, Option.isSome_map]
  | size =>
      refine ⟨?_, rfl, ⟨l, h, rfl⟩, rfl, rfl, by simp [ClientCache.use]⟩
      show CacheAnswer.count c.entries.length = .count (l.map _).length
      rw [List.length_map, h.length_eq]
  | isEmpty =>
      refine ⟨?_, rfl, ⟨l, h, rfl⟩, rfl, rfl, by simp [ClientCache.use]⟩
      show CacheAnswer.truth c.entries.isEmpty = .truth (l.map _).isEmpty
      rw [List.isEmpty_map, h.perm.isEmpty_eq]
  | clear =>
      refine ⟨rfl, rfl, ⟨[], .clear c, rfl⟩, rfl, rfl, ?_⟩
      simp [ClientCache.use, ClientCache.clear]

theorem alike_mapM (h : c.InOrder l)
    (build : Family → Identity → StateM σ (Except Fault (Client κ))) (uses : List CacheUse)
    (s : σ) :
    Alike c uses.length (uses.mapM (ClientCache.use (detached build)) (c, s))
      (uses.mapM (LruList.use (build c.family)) (.ofEntries c.capacity l, s)) := by
  induction uses generalizing c l s with
  | nil => exact ⟨rfl, rfl, ⟨l, h, rfl⟩, rfl, rfl, Nat.le_refl _⟩
  | cons use uses ih =>
      rcases hcached : ClientCache.use (detached build) use (c, s) with ⟨answer, c', s'⟩
      rcases hlisted : LruList.use (build c.family) use (.ofEntries c.capacity l, s) with
        ⟨answer', m', t'⟩
      have hone := h.alike_use build use s
      rw [hcached, hlisted] at hone
      obtain ⟨rfl, rfl, ⟨l', h', rfl⟩, hfamily, hcapacity, hclock⟩ := hone
      dsimp only at h' hfamily hcapacity hclock
      -- The first use leaves a cache in order again, of the family and capacity it had.
      have hrest := ih h' s'
      rw [hfamily, hcapacity] at hrest
      rw [mapM_cons_run, mapM_cons_run, hcached, hlisted]
      obtain ⟨hanswers, hs, ⟨l'', horder, hm⟩, hfamily', hcapacity', hclock'⟩ := hrest
      refine ⟨congrArg (answer :: ·) hanswers, hs, ⟨l'', horder, ?_⟩, hfamily'.trans hfamily,
        hcapacity'.trans hcapacity, ?_⟩
      · rw [hm, hcapacity]
      · rw [List.length_cons]
        dsimp only at hclock' ⊢
        omega

end ClientCache.InOrder

/-- Whatever is asked of it in whatever order, a cache of any capacity gives the answers of the
list and asks the factory for the same clients in the same order. The times of its entries are
distinct and put them in the order of the list, so the one to go is the same however the entries
are gone through, and the clock advances at most twice for each use. -/
theorem cache_keeps_the_last_served (family : Family) (capacity : Nat)
    (build : Family → Identity → StateM σ (Except Fault (Client κ))) (s : σ)
    (uses : List CacheUse) :
    let cached := uses.mapM (ClientCache.use (ClientCache.detached (recorded build)))
      (.empty family capacity, s, [])
    let listed := uses.mapM (LruList.use (recorded build family)) (.empty capacity, s, [])
    let cache := cached.2.1
    cached.1 = listed.1 ∧ cached.2.2 = listed.2.2 ∧
      (∃ l : List (CacheEntry κ), l.Perm cache.entries ∧
        (l.Pairwise fun a b => a.lastUsed < b.lastUsed) ∧
        listed.2.1.served = l.map fun e => (e.key, e.client)) ∧
      (cache.entries.Pairwise fun a b => a.lastUsed ≠ b.lastUsed) ∧
      (∀ entries, entries.Perm cache.entries →
        ClientCache.stalest entries = ClientCache.stalest cache.entries) ∧
      cache.clock ≤ 2 * uses.length := by
  intro cached listed cache
  have halike : Alike (.empty family capacity) uses.length cached listed :=
    (ClientCache.InOrder.empty family capacity).alike_mapM (recorded build) uses (s, [])
  obtain ⟨hanswers, hs, ⟨l, horder, hm⟩, -, -, hclock⟩ := halike
  refine ⟨hanswers, hs, ⟨l, horder.perm, horder.sorted, by rw [hm]; rfl⟩, ?_, ?_, ?_⟩
  · have hdistinct : l.Pairwise fun a b => a.lastUsed ≠ b.lastUsed :=
      horder.sorted.imp fun hlt => Nat.ne_of_lt hlt
    exact horder.perm.pairwise hdistinct fun hne => hne.symm
  · intro entries hentries
    have hperm : l.Perm entries := horder.perm.trans hentries.symm
    rw [ClientCache.stalest_eq_head? hperm horder.sorted,
      ClientCache.stalest_eq_head? horder.perm horder.sorted]
  · simpa [ClientCache.empty] using hclock

/-- Of two users the one who was not served again goes when a third comes. -/
theorem last_served_stay :
    let cached := [CacheUse.get ⟨"alice"⟩, .get ⟨"bob"⟩, .get ⟨"alice"⟩, .get ⟨"carol"⟩,
      .contains ⟨"bob"⟩].mapM (ClientCache.use (ClientCache.detached
        (recorded fun _ id => (pure (.ok ⟨id, ()⟩) : StateM Unit _)))) (.empty .core 2, (), [])
    cached.1.getLast? = some (.truth false) ∧
      ClientCache.stalest cached.2.1.entries.reverse = ClientCache.stalest cached.2.1.entries := by
  intro cached
  obtain ⟨hanswers, -, -, -, hstalest, -⟩ := cache_keeps_the_last_served .core 2
    (fun _ id => (pure (.ok ⟨id, ()⟩) : StateM Unit _)) ()
    [.get ⟨"alice"⟩, .get ⟨"bob"⟩, .get ⟨"alice"⟩, .get ⟨"carol"⟩, .contains ⟨"bob"⟩]
  refine ⟨?_, hstalest _ (List.reverse_perm _)⟩
  exact (congrArg List.getLast? hanswers).trans rfl

end ClusterAccess
