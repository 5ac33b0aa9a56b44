import ClusterAccess.Proofs.Client.Binding

/-!
The entries of a cache in the order in which they were served. A cache keeps times and no order,
but no two of its entries were served at the same time, so the times alone give the order back,
and the entry that makes room is the first in it, however the cache goes through its entries.
-/

namespace ClusterAccess.ClientCache

variable {κ : Type} {c : ClientCache κ} {entries l : List (CacheEntry κ)} {e old : CacheEntry κ}
  {id : Identity} {client : Client κ}

/-! ### The stalest entry -/

theorem foldl_stalest_spec (rest : List (CacheEntry κ)) (e : CacheEntry κ) :
    let old := rest.foldl (fun old e => if e.lastUsed < old.lastUsed then e else old) e
    old ∈ e :: rest ∧ ∀ x ∈ e :: rest, old.lastUsed ≤ x.lastUsed := by
  induction rest generalizing e with
  | nil => simp
  | cons y rest ih =>
      by_cases hlt : y.lastUsed < e.lastUsed
      · simp only [List.foldl_cons, if_pos hlt]
        obtain ⟨hmem, hle⟩ := ih y
        refine ⟨List.mem_cons_of_mem _ hmem, fun x hx => ?_⟩
        rcases List.mem_cons.mp hx with rfl | hx
        · have hy := hle y (List.mem_cons_self ..)
          omega
        · exact hle x hx
      · simp only [List.foldl_cons, if_neg hlt]
        obtain ⟨hmem, hle⟩ := ih e
        have he := hle e (List.mem_cons_self ..)
        refine ⟨?_, fun x hx => ?_⟩
        · rcases List.mem_cons.mp hmem with heq | hmem
          · rw [heq]
            exact List.mem_cons_self ..
          · exact List.mem_cons_of_mem _ (List.mem_cons_of_mem _ hmem)
        · rcases List.mem_cons.mp hx with rfl | hx
          · exact he
          rcases List.mem_cons.mp hx with rfl | hx
          · omega
          · exact hle x (List.mem_cons_of_mem _ hx)

theorem stalest_spec (h : stalest entries = some old) :
    old ∈ entries ∧ ∀ e ∈ entries, old.lastUsed ≤ e.lastUsed := by
  cases entries with
  | nil => simp [stalest] at h
  | cons e rest =>
      obtain rfl := Option.some.inj h
      exact foldl_stalest_spec rest e

/-- In entries that were served one after the other the first is the stalest, in whatever order
they are gone through. -/
theorem stalest_eq_head? (hperm : l.Perm entries)
    (hsorted : l.Pairwise fun a b => a.lastUsed < b.lastUsed) : stalest entries = l.head? := by
  cases l with
  | nil =>
      rw [hperm.nil_eq.symm]
      rfl
  | cons first later =>
      cases hstalest : stalest entries with
      | none =>
          cases entries with
          | nil => simp at hperm
          | cons e rest => simp [stalest] at hstalest
      | some old =>
          obtain ⟨hmem, hle⟩ := stalest_spec hstalest
          -- The stalest is no later than the first, and the others are later than it.
          have hfirst := hle first (hperm.mem_iff.mp (List.mem_cons_self ..))
          rcases List.mem_cons.mp (hperm.mem_iff.mpr hmem) with rfl | hlater
          · rfl
          · have hlt := (List.pairwise_cons.mp hsorted).1 old hlater
            omega

/-! ### The order of service -/

/-- These are the entries of the cache, each served after the one before it, with one entry for
each identity. -/
structure InOrder (c : ClientCache κ) (l : List (CacheEntry κ)) : Prop where
  perm : l.Perm c.entries
  sorted : l.Pairwise fun a b => a.lastUsed < b.lastUsed
  keys : l.Pairwise fun a b => a.key ≠ b.key
  past : ∀ e ∈ l, e.lastUsed ≤ c.clock
  fits : l.length ≤ c.capacity

theorem eq_of_key_eq (hkeys : l.Pairwise fun a b => a.key ≠ b.key) {a b : CacheEntry κ}
    (ha : a ∈ l) (hb : b ∈ l) (h : a.key = b.key) : a = b := by
  have hall := List.Pairwise.forall_of_forall_of_flip (R := fun a b => a.key = b.key → a = b)
    (fun _ _ _ => rfl) (hkeys.imp fun hne heq => absurd heq hne)
    (hkeys.imp fun hne heq => absurd heq.symm hne)
  exact hall ha hb h

theorem touch_of_forall_ne (time : Nat) (h : ∀ e ∈ l, e.key ≠ id) : touch id time l = l := by
  refine (List.map_congr_left fun e he => ?_).trans (List.map_id l)
  rw [if_neg (h e he)]
  rfl

theorem find?_eq_some_iff (hkeys : l.Pairwise fun a b => a.key ≠ b.key) :
    l.find? (fun e => e.key = id) = some e ↔ e ∈ l ∧ e.key = id := by
  constructor
  · intro h
    exact ⟨List.mem_of_find?_eq_some h, by simpa using List.find?_some h⟩
  · rintro ⟨hmem, hkey⟩
    cases hfind : l.find? (fun e => e.key = id) with
    | none =>
        have hne := List.find?_eq_none.mp hfind e hmem
        simp [hkey] at hne
    | some x =>
        have hx : x.key = id := by simpa using List.find?_some hfind
        rw [eq_of_key_eq hkeys (List.mem_of_find?_eq_some hfind) hmem (hx.trans hkey.symm)]

namespace InOrder

theorem empty (family : Family) (capacity : Nat) :
    (ClientCache.empty family capacity : ClientCache κ).InOrder [] :=
  ⟨List.Perm.refl _, .nil, .nil, by simp, Nat.zero_le _⟩

theorem clear (c : ClientCache κ) : c.clear.InOrder [] :=
  ⟨List.Perm.refl _, .nil, .nil, by simp, Nat.zero_le _⟩

theorem tick (h : c.InOrder l) : InOrder { c with clock := c.clock + 1 } l :=
  ⟨h.perm, h.sorted, h.keys, fun e he => Nat.le_succ_of_le (h.past e he), h.fits⟩

theorem length_eq (h : c.InOrder l) : l.length = c.entries.length := h.perm.length_eq

theorem find?_eq (h : c.InOrder l) (id : Identity) :
    c.find? id = l.find? (fun e => e.key = id) := by
  have hkeys : c.entries.Pairwise fun a b => a.key ≠ b.key :=
    h.perm.pairwise h.keys fun hne => hne.symm
  ext e
  rw [ClientCache.find?, find?_eq_some_iff hkeys, find?_eq_some_iff h.keys, h.perm.mem_iff]

theorem append (h : c.InOrder l) {kept : List (CacheEntry κ)} (hkept : kept.Sublist l)
    (hnew : ∀ e ∈ kept, e.key ≠ id) (hroom : kept.length < c.capacity)
    (hperm : List.Perm (kept ++ [⟨id, client, c.clock + 1⟩]) entries) :
    InOrder { c with clock := c.clock + 1, entries } (kept ++ [⟨id, client, c.clock + 1⟩]) where
  perm := hperm
  sorted := by
    refine List.pairwise_append.mpr ⟨h.sorted.sublist hkept, List.pairwise_singleton _ _, ?_⟩
    intro e he new hnew
    obtain rfl := List.mem_singleton.mp hnew
    exact Nat.lt_succ_of_le (h.past e (hkept.subset he))
  keys := by
    refine List.pairwise_append.mpr ⟨h.keys.sublist hkept, List.pairwise_singleton _ _, ?_⟩
    intro e he new hlast
    obtain rfl := List.mem_singleton.mp hlast
    exact hnew e he
  past := by
    intro e he
    rcases List.mem_append.mp he with he | he
    · exact Nat.le_succ_of_le (h.past e (hkept.subset he))
    · obtain rfl := List.mem_singleton.mp he
      exact Nat.le_refl _
  fits := by
    rw [List.length_append]
    exact hroom

theorem touch (h : c.InOrder l) (he : e ∈ l) :
    InOrder { c with
        clock := c.clock + 1
        entries := touch e.key (c.clock + 1) c.entries }
      (l.filter (fun x => x.key ≠ e.key) ++ [⟨e.key, e.client, c.clock + 1⟩]) := by
  -- No other entry has this key, so the times and the places of the others stay.
  obtain ⟨before, after, rfl⟩ := List.append_of_mem he
  have hbefore : ∀ x ∈ before, x.key ≠ e.key := by
    intro x hx
    exact (List.pairwise_append.mp h.keys).2.2 x hx e (List.mem_cons_self ..)
  have hafter : ∀ x ∈ after, x.key ≠ e.key := by
    intro x hx
    have hkeys := (List.pairwise_append.mp h.keys).2.1
    exact ((List.pairwise_cons.mp hkeys).1 x hx).symm
  have hfilter : (before ++ e :: after).filter (fun x => x.key ≠ e.key) = before ++ after := by
    rw [List.filter_append, List.filter_cons_of_neg (by simp),
      List.filter_eq_self.mpr (by simpa using hbefore),
      List.filter_eq_self.mpr (by simpa using hafter)]
  have htouch : ClientCache.touch e.key (c.clock + 1) (before ++ e :: after) =
      before ++ ⟨e.key, e.client, c.clock + 1⟩ :: after := by
    have hleft := touch_of_forall_ne (c.clock + 1) hbefore
    have hright := touch_of_forall_ne (c.clock + 1) hafter
    unfold ClientCache.touch at hleft hright ⊢
    rw [List.map_append, List.map_cons, hleft, hright, if_pos rfl]
  rw [hfilter]
  refine h.append ?_ ?_ ?_ ?_
  · exact (List.sublist_cons_self e after).append_left before
  · intro x hx
    rcases List.mem_append.mp hx with hx | hx
    · exact hbefore x hx
    · exact hafter x hx
  · have hfits := h.fits
    simp only [List.length_append, List.length_cons] at hfits ⊢
    omega
  · have hmoved : List.Perm (before ++ after ++ [⟨e.key, e.client, c.clock + 1⟩])
        (before ++ ⟨e.key, e.client, c.clock + 1⟩ :: after) := by
      rw [List.append_assoc]
      exact (List.perm_append_singleton _ after).append_left before
    rw [← htouch] at hmoved
    exact hmoved.trans (h.perm.map _)

end InOrder

/-! ### Making room -/

theorem dropStalest_perm (hperm : l.Perm entries)
    (hsorted : l.Pairwise fun a b => a.lastUsed < b.lastUsed)
    (hkeys : l.Pairwise fun a b => a.key ≠ b.key) : l.tail.Perm (dropStalest entries) := by
  unfold dropStalest
  rw [stalest_eq_head? hperm hsorted]
  cases l with
  | nil => exact List.Perm.refl _
  | cons first later =>
      have hlater : ∀ e ∈ later, e.key ≠ first.key := by
        intro e he
        exact ((List.pairwise_cons.mp hkeys).1 e he).symm
      have hfilter := hperm.filter (fun e => e.key ≠ first.key)
      rw [List.filter_cons_of_neg (by simp), List.filter_eq_self.mpr (by simpa using hlater)]
        at hfilter
      exact hfilter

namespace InOrder

theorem makeRoom (h : c.InOrder l) :
    (if l.length < c.capacity then l else l.tail).Perm c.makeRoom := by
  unfold ClientCache.makeRoom
  rw [← h.length_eq]
  split
  next hroom =>
    rw [show l.length + 1 - c.capacity = 0 by omega]
    exact h.perm
  next hfull =>
    have hfits := h.fits
    rw [show l.length + 1 - c.capacity = 1 by omega]
    exact dropStalest_perm h.perm h.sorted h.keys

/-- A client that is new to the cache comes last, and the first makes room if there is none. -/
theorem store (h : c.InOrder l) (hmissing : c.find? id = none) (client : Client κ) :
    (c.store id client).2.InOrder
      ((if l.length < c.capacity then l else l.tail) ++ [⟨id, client, c.clock + 1⟩]) := by
  rw [store_of_none hmissing]
  have hsub : (if l.length < c.capacity then l else l.tail).Sublist l := by
    split
    · exact List.Sublist.refl l
    · exact List.tail_sublist l
  refine h.append hsub ?_ ?_ ?_
  · intro e he hkey
    rw [h.find?_eq, List.find?_eq_none] at hmissing
    simpa [hkey] using hmissing e (hsub.subset he)
  · have hpos := c.capacity_pos
    have hfits := h.fits
    split
    · assumption
    · rw [List.length_tail]
      omega
  · exact (List.perm_append_singleton _ _).trans (h.makeRoom.cons _)

end InOrder

end ClusterAccess.ClientCache
