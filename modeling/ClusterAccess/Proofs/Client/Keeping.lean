import ClusterAccess.Proofs.Client.Sharing

/-!
What holds of all clients that caches keep. Looking up and clearing add no client, and storing adds
at most the one that is stored, so what holds of all that is ever stored holds of all that is kept.
-/

namespace ClusterAccess

variable {κ : Type} {good : Identity → Client κ → Prop}

namespace ClientCache

variable {c : ClientCache κ} {id : Identity} {client : Client κ}

/-- Every client is good for the identity that it is kept for. -/
def Keeps (good : Identity → Client κ → Prop) (c : ClientCache κ) : Prop :=
  ∀ id client, c.client? id = some client → good id client

theorem keeps_empty (good : Identity → Client κ → Prop) (family : Family) (capacity : Nat) :
    (empty family capacity).Keeps good := by
  intro id client hclient
  simp [client?, find?, empty] at hclient

theorem keeps_clear (good : Identity → Client κ → Prop) (c : ClientCache κ) :
    c.clear.Keeps good := by
  intro id client hclient
  simp at hclient

theorem Keeps.lookup (h : c.Keeps good) (id : Identity) : (c.lookup id).2.Keeps good := by
  intro other client hclient
  rw [client?_lookup] at hclient
  exact h other client hclient

/-- What storing gives back is the client that was there or the one that was stored. -/
theorem Keeps.store_fst (h : c.Keeps good) (hgood : good id client) :
    good id (c.store id client).1 := by
  rw [ClientCache.store_fst]
  cases hfound : c.client? id with
  | some old => exact h id old hfound
  | none => exact hgood

theorem Keeps.store (h : c.Keeps good) (hgood : good id client) :
    (c.store id client).2.Keeps good := by
  intro other kept hkept
  by_cases hother : other = id
  · subst hother
    rw [client?_store_self, ← ClientCache.store_fst] at hkept
    obtain rfl := Option.some.inj hkept
    exact h.store_fst hgood
  · rcases client?_store_of_ne (c := c) hother with hnone | hsame
    · rw [hnone] at hkept
      cases hkept
    · exact h other kept (hsame.symm.trans hkept)

end ClientCache

namespace ClientRegistry

variable {r : ClientRegistry κ} {goodIn : Family → Identity → Client κ → Prop}

def Keeps (goodIn : Family → Identity → Client κ → Prop) (r : ClientRegistry κ) : Prop :=
  ∀ family, (r.cache family).Keeps (goodIn family)

theorem keeps_empty (goodIn : Family → Identity → Client κ → Prop) (capacities : CacheCapacities) :
    (empty capacities).Keeps goodIn := by
  intro family
  cases family <;> exact ClientCache.keeps_empty _ _ _

theorem Keeps.setCache (h : r.Keeps goodIn) {family : Family} {c : ClientCache κ}
    (hc : c.Keeps (goodIn family)) : (r.setCache family c).Keeps goodIn := by
  intro other
  rw [cache_setCache]
  split
  next hother =>
    rw [hother]
    exact hc
  next => exact h other

end ClientRegistry

end ClusterAccess
