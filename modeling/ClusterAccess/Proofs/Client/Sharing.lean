import ClusterAccess.Proofs.Client.Recency

/-!
The client that a cache keeps for an identity. Looking up gives it out, storing gives it out too
if it is there, and neither ever puts another client in its place: it stays until it is cleared or
has to make room, and nobody makes room for himself. In whatever way a cache came about by these
steps, it holds no more entries than it may, and one for each identity.
-/

namespace ClusterAccess

variable {κ σ : Type}

namespace ClientCache

variable {c : ClientCache κ} {id other : Identity} {client built : Client κ} {e : CacheEntry κ}

def client? (c : ClientCache κ) (id : Identity) : Option (Client κ) := (c.find? id).map (·.client)

theorem contains_eq : c.contains id = (c.client? id).isSome := by
  rw [client?, Option.isSome_map]
  rfl

@[simp] theorem client?_clear : c.clear.client? id = none := rfl

theorem lookup_fst : (c.lookup id).1 = c.client? id := by
  cases hfind : c.find? id with
  | some e => rw [lookup_of_some hfind, client?, hfind, Option.map_some]
  | none => rw [lookup_of_none hfind, client?, hfind, Option.map_none]

theorem store_fst : (c.store id built).1 = (c.client? id).getD built := by
  cases hfind : c.find? id with
  | some e => rw [store_of_some hfind, client?, hfind, Option.map_some, Option.getD_some]
  | none => rw [store_of_none hfind, client?, hfind, Option.map_none, Option.getD_none]

/-! ### What stays -/

theorem find?_touch (time : Nat) (entries : List (CacheEntry κ)) :
    ((touch id time entries).find? (·.key = other)).map (·.client) =
      (entries.find? (·.key = other)).map (·.client) := by
  rw [touch, List.find?_map, Option.map_map]
  have hkey : ∀ e : CacheEntry κ,
      (if e.key = id then { e with lastUsed := time } else e).key = e.key := by
    intro e
    split <;> rfl
  have hclient : ∀ e : CacheEntry κ,
      (if e.key = id then { e with lastUsed := time } else e).client = e.client := by
    intro e
    split <;> rfl
  simp only [Function.comp_def, hkey, hclient]

@[simp] theorem client?_lookup : (c.lookup id).2.client? other = c.client? other := by
  cases hfind : c.find? id with
  | some e =>
      rw [lookup_of_some hfind]
      exact find?_touch _ _
  | none =>
      rw [lookup_of_none hfind]
      rfl

/-- Whoever makes room is gone altogether, and the others are as they were. -/
theorem find?_dropStalest (entries : List (CacheEntry κ)) (id : Identity) :
    (dropStalest entries).find? (·.key = id) = none ∨
      (dropStalest entries).find? (·.key = id) = entries.find? (·.key = id) := by
  unfold dropStalest
  split
  next => exact .inl rfl
  next old hold =>
    rw [List.find?_filter]
    by_cases hid : id = old.key
    · left
      rw [List.find?_eq_none]
      rintro e - he
      simp_all
    · right
      congr 1
      funext e
      by_cases he : e.key = id <;> simp_all

theorem find?_dropStalestTimes (n : Nat) (entries : List (CacheEntry κ)) (id : Identity) :
    (dropStalestTimes n entries).find? (·.key = id) = none ∨
      (dropStalestTimes n entries).find? (·.key = id) = entries.find? (·.key = id) := by
  induction n generalizing entries with
  | zero => exact .inr rfl
  | succ n ih =>
      rcases ih (dropStalest entries) with hnone | hsame
      · exact .inl hnone
      · rw [dropStalestTimes, hsame]
        exact find?_dropStalest entries id

theorem client?_store_self :
    (c.store id built).2.client? id = some ((c.client? id).getD built) := by
  cases hfind : c.find? id with
  | some e =>
      have hkept : (c.store id built).2.client? id = c.client? id := by
        rw [store_of_some hfind]
        exact find?_touch _ _
      rw [hkept, client?, hfind, Option.map_some, Option.getD_some]
  | none =>
      have hstored : (c.store id built).2.client? id = some built := by
        rw [store_of_none hfind]
        simp [client?, find?]
      rw [hstored, client?, hfind, Option.map_none, Option.getD_none]

theorem client?_store_of_ne (hne : other ≠ id) :
    (c.store id built).2.client? other = none ∨
      (c.store id built).2.client? other = c.client? other := by
  cases hfind : c.find? id with
  | some e =>
      right
      rw [store_of_some hfind]
      exact find?_touch _ _
  | none =>
      have hrest : (c.store id built).2.client? other =
          (c.makeRoom.find? (·.key = other)).map (·.client) := by
        rw [store_of_none hfind]
        simp [client?, find?, hne.symm]
      rw [hrest]
      rcases find?_dropStalestTimes (c.entries.length + 1 - c.capacity) c.entries other with
        hnone | hsame
      · exact .inl (by rw [makeRoom, hnone, Option.map_none])
      · exact .inr (by rw [makeRoom, hsame]; rfl)

/-! ### Size and keys -/

@[simp] theorem capacity_lookup : (c.lookup id).2.capacity = c.capacity := by
  cases hfind : c.find? id with
  | some e => rw [lookup_of_some hfind]
  | none => rw [lookup_of_none hfind]

@[simp] theorem capacity_store : (c.store id built).2.capacity = c.capacity := by
  cases hfind : c.find? id with
  | some e => rw [store_of_some hfind]
  | none => rw [store_of_none hfind]

/-- The entries can be put in the order in which they were served. -/
def Ordered (c : ClientCache κ) : Prop := ∃ l, c.InOrder l

theorem ordered_empty (family : Family) (capacity : Nat) :
    (empty family capacity : ClientCache κ).Ordered := ⟨[], .empty family capacity⟩

theorem ordered_clear (c : ClientCache κ) : c.clear.Ordered := ⟨[], .clear c⟩

namespace Ordered

theorem touch (h : c.Ordered) (hfind : c.find? id = some e) :
    Ordered { c with
      clock := c.clock + 1
      entries := touch id (c.clock + 1) c.entries } := by
  obtain ⟨l, h⟩ := h
  obtain ⟨hmem, rfl⟩ := mem_of_find? hfind
  exact ⟨_, h.touch (h.perm.mem_iff.mpr hmem)⟩

theorem lookup (h : c.Ordered) (id : Identity) : (c.lookup id).2.Ordered := by
  cases hfind : c.find? id with
  | some e =>
      rw [lookup_of_some hfind]
      exact h.touch hfind
  | none =>
      rw [lookup_of_none hfind]
      obtain ⟨l, h⟩ := h
      exact ⟨l, h.tick⟩

theorem store (h : c.Ordered) (id : Identity) (built : Client κ) :
    (c.store id built).2.Ordered := by
  cases hfind : c.find? id with
  | some e =>
      rw [store_of_some hfind]
      exact h.touch hfind
  | none =>
      obtain ⟨l, h⟩ := h
      exact ⟨_, h.store hfind built⟩

theorem size_le (h : c.Ordered) : c.size ≤ c.capacity := by
  obtain ⟨l, h⟩ := h
  rw [size, ← h.length_eq]
  exact h.fits

theorem keys (h : c.Ordered) : c.entries.Pairwise fun a b => a.key ≠ b.key := by
  obtain ⟨l, h⟩ := h
  exact h.perm.pairwise h.keys fun hne => hne.symm

end Ordered

/-! ### A request -/

/-- A request step by step, with whatever the factory does to the cache while it builds. -/
theorem get_eq (factory : Factory σ κ) (c : ClientCache κ) (id : Identity) (s : σ) :
    get factory id (c, s) =
      match c.client? id with
      | some found => (.ok found, ((c.lookup id).2, s))
      | none =>
        match factory c.family id ((c.lookup id).2, s) with
        | (.error f, t) => (.error f, t)
        | (.ok built, (d, t)) =>
          if built.identity = id then (.ok (d.store id built).1, ((d.store id built).2, t))
          else (.error (misbound id built.identity), (d, t)) := by
  rw [← lookup_fst]
  show serve id (onCache (·.lookup id)) (factory c.family id)
    (fun client => onCache (·.store id client)) (c, s) = _
  simp only [serve, bind, StateT.bind, onCache]
  rcases c.lookup id with ⟨_ | found, d⟩
  · simp only [StateT.bind, bind]
    rcases factory c.family id (d, s) with ⟨f | built, t⟩
    · rfl
    · dsimp only
      split <;> rfl
  · rfl

/-- A request that succeeds leaves behind the client that it gives, whatever the factory did to
the cache while it built. -/
theorem client?_get {factory : Factory σ κ} {s : σ} (h : (get factory id (c, s)).1 = .ok client) :
    (get factory id (c, s)).2.1.client? id = some client := by
  rw [get_eq] at h ⊢
  cases hfound : c.client? id with
  | some found =>
      obtain rfl : found = client := by simpa [hfound] using h
      simpa using hfound
  | none =>
      simp only [hfound] at h ⊢
      rcases hbuilt : factory c.family id ((c.lookup id).2, s) with ⟨f | built, d, t⟩
      · simp [hbuilt] at h
      · simp only [hbuilt] at h ⊢
        split at h
        next hid =>
          obtain rfl := Except.ok.inj h
          rw [if_pos hid, client?_store_self, store_fst]
        next => simp at h

end ClientCache

/-! ### All families -/

def CacheCapacities.of (capacities : CacheCapacities) : Family → Nat
  | .core => capacities.core
  | .storage => capacities.storage
  | .customObjects => capacities.customObjects

namespace ClientRegistry

/-- Every cache is ordered, and has the capacity that was set for its family. -/
def Ordered (capacities : CacheCapacities) (r : ClientRegistry κ) : Prop :=
  ∀ family, (r.cache family).Ordered ∧
    (r.cache family).capacity = max (capacities.of family) 1

variable {capacities : CacheCapacities} {r : ClientRegistry κ}

theorem ordered_empty (capacities : CacheCapacities) :
    Ordered capacities (empty capacities : ClientRegistry κ) := by
  intro family
  cases family <;> exact ⟨ClientCache.ordered_empty _ _, rfl⟩

theorem Ordered.setCache (h : Ordered capacities r) {family : Family} {c : ClientCache κ}
    (hordered : c.Ordered) (hcapacity : c.capacity = (r.cache family).capacity) :
    Ordered capacities (r.setCache family c) := by
  intro other
  rw [cache_setCache]
  split
  next heq => exact ⟨hordered, by rw [hcapacity, heq, (h family).2]⟩
  next => exact h other

end ClientRegistry

end ClusterAccess
