import ClusterAccess.Client.Registry

/-!
Caches keep every client for the identity that it acts as. Looking up, storing and clearing keep
it so, and what a look-up or a store gives back acts as the identity that was asked for.
-/

namespace ClusterAccess

variable {κ : Type}

namespace ClientCache

variable {c : ClientCache κ} {id : Identity} {client : Client κ} {e : CacheEntry κ}

theorem mem_of_find? (h : c.find? id = some e) : e ∈ c.entries ∧ e.key = id :=
  ⟨List.mem_of_find?_eq_some h, by simpa using List.find?_some h⟩

theorem lookup_of_some (h : c.find? id = some e) :
    c.lookup id = (some e.client,
      { c with clock := c.clock + 1, entries := touch id (c.clock + 1) c.entries }) := by
  simp [lookup, h]

theorem lookup_of_none (h : c.find? id = none) :
    c.lookup id = (none, { c with clock := c.clock + 1 }) := by
  simp [lookup, h]

theorem store_of_some (h : c.find? id = some e) :
    c.store id client = (e.client,
      { c with clock := c.clock + 1, entries := touch id (c.clock + 1) c.entries }) := by
  simp [store, h]

theorem store_of_none (h : c.find? id = none) :
    c.store id client = (client,
      { c with clock := c.clock + 1, entries := ⟨id, client, c.clock + 1⟩ :: c.makeRoom }) := by
  simp [store, h]

theorem mem_touch {time : Nat} {entries : List (CacheEntry κ)} (h : e ∈ touch id time entries) :
    ∃ old ∈ entries, e.key = old.key ∧ e.client = old.client := by
  obtain ⟨old, hold, rfl⟩ := List.mem_map.mp h
  refine ⟨old, hold, ?_⟩
  split <;> exact ⟨rfl, rfl⟩

theorem dropStalest_sublist (entries : List (CacheEntry κ)) :
    (dropStalest entries).Sublist entries := by
  unfold dropStalest
  split
  · exact List.nil_sublist _
  · exact List.filter_sublist

theorem dropStalestTimes_sublist (n : Nat) (entries : List (CacheEntry κ)) :
    (dropStalestTimes n entries).Sublist entries := by
  induction n generalizing entries with
  | zero => exact List.Sublist.refl _
  | succ n ih => exact (ih _).trans (dropStalest_sublist entries)

def Bound (c : ClientCache κ) : Prop := ∀ e ∈ c.entries, e.client.identity = e.key

theorem bound_empty (family : Family) (capacity : Nat) :
    (empty family capacity : ClientCache κ).Bound := by
  intro e he
  simp [empty] at he

theorem bound_clear (c : ClientCache κ) : c.clear.Bound := by
  intro e he
  simp [clear] at he

theorem Bound.touch (h : c.Bound) (id : Identity) (time clock : Nat) :
    Bound { c with clock, entries := touch id time c.entries } := by
  intro e he
  obtain ⟨old, hold, hkey, hclient⟩ := mem_touch he
  rw [hkey, hclient]
  exact h old hold

theorem Bound.lookup (h : c.Bound) (id : Identity) : (c.lookup id).2.Bound := by
  cases hfind : c.find? id with
  | some e =>
      rw [lookup_of_some hfind]
      exact h.touch id _ _
  | none =>
      rw [lookup_of_none hfind]
      exact h

theorem Bound.identity_of_lookup (h : c.Bound) (hfound : (c.lookup id).1 = some client) :
    client.identity = id := by
  cases hfind : c.find? id with
  | some e =>
      rw [lookup_of_some hfind] at hfound
      obtain rfl := Option.some.inj hfound
      obtain ⟨hmem, hkey⟩ := mem_of_find? hfind
      rw [h e hmem, hkey]
  | none => simp [lookup_of_none hfind] at hfound

theorem Bound.store (h : c.Bound) (hid : client.identity = id) :
    (c.store id client).2.Bound := by
  cases hfind : c.find? id with
  | some e =>
      rw [store_of_some hfind]
      exact h.touch id _ _
  | none =>
      rw [store_of_none hfind]
      intro e he
      rcases List.mem_cons.mp he with rfl | he
      · exact hid
      · exact h e ((dropStalestTimes_sublist _ _).subset he)

theorem Bound.identity_of_store (h : c.Bound) (hid : client.identity = id) :
    (c.store id client).1.identity = id := by
  cases hfind : c.find? id with
  | some e =>
      rw [store_of_some hfind]
      obtain ⟨hmem, hkey⟩ := mem_of_find? hfind
      rw [h e hmem, hkey]
  | none =>
      rw [store_of_none hfind]
      exact hid

end ClientCache

namespace ClientRegistry

variable {r : ClientRegistry κ}

@[simp] theorem setCache_cache (r : ClientRegistry κ) (family : Family) :
    r.setCache family (r.cache family) = r := by
  cases family <;> rfl

def Bound (r : ClientRegistry κ) : Prop := ∀ family, (r.cache family).Bound

theorem bound_empty (capacities : CacheCapacities) :
    (empty capacities : ClientRegistry κ).Bound := by
  intro family
  cases family <;> exact ClientCache.bound_empty _ _

theorem Bound.setCache (h : r.Bound) {c : ClientCache κ} (hc : c.Bound) (family : Family) :
    (r.setCache family c).Bound := by
  intro other
  rw [cache_setCache]
  split
  · exact hc
  · exact h other

end ClientRegistry

end ClusterAccess
