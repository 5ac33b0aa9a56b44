import ClusterAccess.Identity
import ClusterAccess.Fault

/-!
A bounded cache of clients, one per identity. Every look-up and every store advances a clock, and
the entry that was served longest ago makes room for a new one. Serving an identity takes three
steps: look it up, build a client if it is missing, and store what was built. Between them others
may use the cache, so a store keeps the client that is already there.
-/

namespace ClusterAccess

inductive Family where
  | core
  | storage
  | customObjects
  deriving DecidableEq

namespace Family

def text : Family → String
  | core => "core"
  | storage => "storage"
  | customObjects => "custom-objects"

def inspect : Family → String
  | core => "Core"
  | storage => "Storage"
  | customObjects => "CustomObjects"

def ofText? (s : String) : Option Family :=
  if s = "core" then some core
  else if s = "storage" then some storage
  else if s = "custom-objects" then some customObjects
  else none

end Family

/-- A client that acts as one identity, with the means it has to do so. -/
structure Client (κ : Type) where
  identity : Identity
  handle : κ

structure CacheEntry (κ : Type) where
  key : Identity
  client : Client κ
  lastUsed : Nat

structure ClientCache (κ : Type) where
  family : Family
  capacity : Nat
  capacity_pos : 0 < capacity
  clock : Nat
  entries : List (CacheEntry κ)

namespace ClientCache

variable {κ σ : Type}

def defaultCapacity : Nat := 100

/-- A cache without entries; a capacity of zero counts as one. -/
def empty (family : Family) (capacity : Nat) : ClientCache κ :=
  ⟨family, max capacity 1, by omega, 0, []⟩

def size (c : ClientCache κ) : Nat := c.entries.length

def isEmpty (c : ClientCache κ) : Bool := c.entries.isEmpty

def find? (c : ClientCache κ) (id : Identity) : Option (CacheEntry κ) :=
  c.entries.find? (·.key = id)

def contains (c : ClientCache κ) (id : Identity) : Bool := (c.find? id).isSome

/-- Drops every entry and leaves the clock. -/
def clear (c : ClientCache κ) : ClientCache κ := { c with entries := [] }

def touch (id : Identity) (time : Nat) (entries : List (CacheEntry κ)) : List (CacheEntry κ) :=
  entries.map fun e => if e.key = id then { e with lastUsed := time } else e

def lookup (c : ClientCache κ) (id : Identity) : Option (Client κ) × ClientCache κ :=
  let time := c.clock + 1
  match c.find? id with
  | some e => (some e.client, { c with clock := time, entries := touch id time c.entries })
  | none => (none, { c with clock := time })

def stalest : List (CacheEntry κ) → Option (CacheEntry κ)
  | [] => none
  | e :: rest => some (rest.foldl (fun old e => if e.lastUsed < old.lastUsed then e else old) e)

def dropStalest (entries : List (CacheEntry κ)) : List (CacheEntry κ) :=
  match stalest entries with
  | none => []
  | some old => entries.filter (·.key ≠ old.key)

def dropStalestTimes : Nat → List (CacheEntry κ) → List (CacheEntry κ)
  | 0, entries => entries
  | n + 1, entries => dropStalestTimes n (dropStalest entries)

/-- The entries that stay when one more is to come. -/
def makeRoom (c : ClientCache κ) : List (CacheEntry κ) :=
  dropStalestTimes (c.entries.length + 1 - c.capacity) c.entries

/-- The client that the identity has afterwards: the one already there, if there is one. -/
def store (c : ClientCache κ) (id : Identity) (client : Client κ) : Client κ × ClientCache κ :=
  let time := c.clock + 1
  match c.find? id with
  | some e => (e.client, { c with clock := time, entries := touch id time c.entries })
  | none =>
    (client, { c with clock := time, entries := ⟨id, client, time⟩ :: c.makeRoom })

/-- The fault of a factory that built a client for somebody else. -/
def misbound (id built : Identity) : Fault :=
  .clientConstruction id.display ("factory returned a client bound to '" ++ built.display ++ "'")

/-- The order of the three steps, whatever runs each of them. -/
def serve {m : Type → Type} [Monad m] (id : Identity) (lookup : m (Option (Client κ)))
    (build : m (Except Fault (Client κ))) (store : Client κ → m (Client κ)) :
    m (Except Fault (Client κ)) := do
  match ← lookup with
  | some client => pure (.ok client)
  | none =>
    match ← build with
    | .error f => pure (.error f)
    | .ok client =>
      if client.identity = id then Except.ok <$> store client
      else pure (.error (misbound id client.identity))

/-- Something that builds the clients of a family. It has a state of its own, and it may use the
cache that it builds for. -/
abbrev Factory (σ κ : Type) :=
  Family → Identity → StateM (ClientCache κ × σ) (Except Fault (Client κ))

def detached (build : Family → Identity → StateM σ (Except Fault (Client κ))) : Factory σ κ :=
  fun family id (cache, s) =>
    let (answer, s) := build family id s
    (answer, (cache, s))

def onCache {α : Type} (f : ClientCache κ → α × ClientCache κ) : StateM (ClientCache κ × σ) α :=
  fun (cache, s) =>
    let (answer, cache) := f cache
    (answer, (cache, s))

def get (factory : Factory σ κ) (id : Identity) :
    StateM (ClientCache κ × σ) (Except Fault (Client κ)) := do
  let (cache, _) ← StateT.get
  serve id (onCache (·.lookup id)) (factory cache.family id)
    (fun client => onCache (·.store id client))

def inspect (c : ClientCache κ) : String :=
  Text.record "ClientCache" [("family", c.family.inspect), ("capacity", toString c.capacity),
    ("len", toString c.size)]

end ClientCache

end ClusterAccess
