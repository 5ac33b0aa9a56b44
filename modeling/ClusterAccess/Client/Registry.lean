import ClusterAccess.Client.Cache

/-!
The caches of all families. An operation on one family leaves the others as they are.
-/

namespace ClusterAccess

structure CacheCapacities where
  core : Nat := ClientCache.defaultCapacity
  storage : Nat := ClientCache.defaultCapacity
  customObjects : Nat := ClientCache.defaultCapacity
  deriving DecidableEq

def CacheCapacities.inspect (c : CacheCapacities) : String :=
  Text.record "CacheCapacities" [("core", toString c.core), ("storage", toString c.storage),
    ("custom_objects", toString c.customObjects)]

structure ClientRegistry (κ : Type) where
  core : ClientCache κ
  storage : ClientCache κ
  customObjects : ClientCache κ

namespace ClientRegistry

variable {κ σ : Type}

def empty (capacities : CacheCapacities) : ClientRegistry κ :=
  ⟨.empty .core capacities.core, .empty .storage capacities.storage,
    .empty .customObjects capacities.customObjects⟩

def cache (r : ClientRegistry κ) : Family → ClientCache κ
  | .core => r.core
  | .storage => r.storage
  | .customObjects => r.customObjects

def setCache (r : ClientRegistry κ) (family : Family) (c : ClientCache κ) : ClientRegistry κ :=
  match family with
  | .core => { r with core := c }
  | .storage => { r with storage := c }
  | .customObjects => { r with customObjects := c }

def onFamily {α : Type} (family : Family) (act : StateM (ClientCache κ × σ) α) :
    StateM (ClientRegistry κ × σ) α := fun (r, s) =>
  let (answer, (c, s)) := act (r.cache family, s)
  (answer, (r.setCache family c, s))

def client (factory : ClientCache.Factory σ κ) (family : Family) (id : Identity) :
    StateM (ClientRegistry κ × σ) (Except Fault (Client κ)) :=
  onFamily family (ClientCache.get factory id)

def clear (r : ClientRegistry κ) (family : Family) : ClientRegistry κ :=
  r.setCache family (r.cache family).clear

def sizes (r : ClientRegistry κ) : Nat × Nat × Nat :=
  (r.core.size, r.storage.size, r.customObjects.size)

@[simp] theorem cache_setCache (r : ClientRegistry κ) (family other : Family)
    (c : ClientCache κ) :
    (r.setCache family c).cache other = if other = family then c else r.cache other := by
  cases family <;> cases other <;> simp [setCache, cache]

end ClientRegistry

end ClusterAccess
