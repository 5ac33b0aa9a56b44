import ClusterAccess.Proofs.Client.Keeping

/-!
A cache that is filled by a factory whose answers depend on nothing but the identity keeps only
what the factory would answer again. So it makes no difference whether a client comes out of the
cache or is built anew.
-/

namespace ClusterAccess

variable {κ : Type}

abbrev Builds := Identity → Except Fault Identity

namespace ClientCache

variable {c c' : ClientCache κ} {builds : Builds} {id : Identity} {client : Client κ}

/-- Every client acts as the identity that it is kept for, and the factory would build one that
does. -/
def Faithful (builds : Builds) (c : ClientCache κ) : Prop :=
  ∀ id client, c.client? id = some client → client.identity = id ∧ builds id = .ok id

theorem faithful_clear (builds : Builds) (c : ClientCache κ) : c.clear.Faithful builds :=
  keeps_clear _ c

theorem Faithful.lookup (h : c.Faithful builds) (id : Identity) :
    (c.lookup id).2.Faithful builds := Keeps.lookup h id

theorem Faithful.store (h : c.Faithful builds) (hid : client.identity = id)
    (hbuilds : builds id = .ok id) : (c.store id client).2.Faithful builds :=
  Keeps.store h ⟨hid, hbuilds⟩

theorem Faithful.identity_of_store (h : c.Faithful builds) (hid : client.identity = id)
    (hbuilds : builds id = .ok id) : (c.store id client).1.identity = id :=
  (Keeps.store_fst h ⟨hid, hbuilds⟩).1

/-- What a factory can do to the cache that it builds for: ask for clients, its own or other ones,
and have them built and stored, and drop them all. -/
inductive Reenters (builds : Builds) (c : ClientCache κ) : ClientCache κ → Prop
  | refl : Reenters builds c c
  | lookup {c' : ClientCache κ} (h : Reenters builds c c') (id : Identity) :
      Reenters builds c (c'.lookup id).2
  | store {c' : ClientCache κ} {id : Identity} {client : Client κ} (h : Reenters builds c c')
      (hid : client.identity = id) (hbuilds : builds id = .ok id) :
      Reenters builds c (c'.store id client).2
  | clear {c' : ClientCache κ} (h : Reenters builds c c') : Reenters builds c c'.clear

theorem Reenters.faithful (h : Reenters builds c c') (hc : c.Faithful builds) :
    c'.Faithful builds := by
  induction h with
  | refl => exact hc
  | lookup _ id ih => exact ih.lookup id
  | store _ hid hbuilds ih => exact ih.store hid hbuilds
  | clear => exact faithful_clear builds _

end ClientCache

namespace ClientRegistry

variable {r : ClientRegistry κ} {builds : Family → Builds}

def Faithful (builds : Family → Builds) (r : ClientRegistry κ) : Prop :=
  ∀ family, (r.cache family).Faithful (builds family)

theorem faithful_empty (builds : Family → Builds) (capacities : CacheCapacities) :
    (empty capacities : ClientRegistry κ).Faithful builds := keeps_empty _ capacities

theorem Faithful.setCache (h : r.Faithful builds) {family : Family} {c : ClientCache κ}
    (hc : c.Faithful (builds family)) : (r.setCache family c).Faithful builds := by
  have hkeeps : r.Keeps fun family id client =>
      client.identity = id ∧ builds family id = .ok id := h
  exact hkeeps.setCache hc

end ClientRegistry

end ClusterAccess
