import ClusterAccess.Proofs.Client.LeastRecent
import Mathlib.Data.List.Forall2

/-!
Caches that match but for the handles of their clients. No operation looks at a handle, so whatever
relates the handles of two caches before an operation relates them afterwards, and the answers match
in the same way: who is kept, when each was served last, and who has to go do not depend on it.
-/

namespace ClusterAccess

variable {κ κ' : Type} {R S : κ → κ' → Prop}

structure Client.Matches (R : κ → κ' → Prop) (a : Client κ) (b : Client κ') : Prop where
  identity : a.identity = b.identity
  handle : R a.handle b.handle

structure CacheEntry.Matches (R : κ → κ' → Prop) (e : CacheEntry κ) (e' : CacheEntry κ') :
    Prop where
  key : e.key = e'.key
  client : e.client.Matches R e'.client
  lastUsed : e.lastUsed = e'.lastUsed

structure ClientCache.Matches (R : κ → κ' → Prop) (c : ClientCache κ) (d : ClientCache κ') :
    Prop where
  family : c.family = d.family
  capacity : c.capacity = d.capacity
  clock : c.clock = d.clock
  entries : List.Forall₂ (CacheEntry.Matches R) c.entries d.entries

inductive ResultsMatch (R : κ → κ' → Prop) :
    Except Fault (Client κ) → Except Fault (Client κ') → Prop
  | error (fault : Fault) : ResultsMatch R (.error fault) (.error fault)
  | ok {a : Client κ} {b : Client κ'} (h : a.Matches R b) : ResultsMatch R (.ok a) (.ok b)

inductive CacheAnswer.Matches (R : κ → κ' → Prop) : CacheAnswer κ → CacheAnswer κ' → Prop
  | client {a : Except Fault (Client κ)} {b : Except Fault (Client κ')} (h : ResultsMatch R a b) :
      Matches R (.client a) (.client b)
  | truth (value : Bool) : Matches R (.truth value) (.truth value)
  | count (value : Nat) : Matches R (.count value) (.count value)
  | nothing : Matches R .nothing .nothing

/-! ### More handles may come to be related -/

theorem Client.Matches.imp {a : Client κ} {b : Client κ'} (hRS : ∀ x y, R x y → S x y)
    (h : a.Matches R b) : a.Matches S b := ⟨h.identity, hRS _ _ h.handle⟩

theorem ClientCache.Matches.imp {c : ClientCache κ} {d : ClientCache κ'}
    (hRS : ∀ x y, R x y → S x y) (h : c.Matches R d) : c.Matches S d :=
  ⟨h.family, h.capacity, h.clock,
    h.entries.imp fun _ _ he => ⟨he.key, he.client.imp hRS, he.lastUsed⟩⟩

theorem ResultsMatch.imp {a : Except Fault (Client κ)} {b : Except Fault (Client κ')}
    (hRS : ∀ x y, R x y → S x y) (h : ResultsMatch R a b) : ResultsMatch S a b := by
  cases h with
  | error fault => exact .error fault
  | ok h => exact .ok (h.imp hRS)

theorem CacheAnswer.Matches.imp {a : CacheAnswer κ} {b : CacheAnswer κ'}
    (hRS : ∀ x y, R x y → S x y) (h : a.Matches R b) : a.Matches S b := by
  cases h with
  | client h => exact .client (h.imp hRS)
  | truth value => exact .truth value
  | count value => exact .count value
  | nothing => exact .nothing

namespace ClientCache

/-! ### Entries -/

variable {entries : List (CacheEntry κ)} {entries' : List (CacheEntry κ')}

theorem find?_matches (h : List.Forall₂ (CacheEntry.Matches R) entries entries') (id : Identity) :
    Option.Rel (CacheEntry.Matches R) (entries.find? (·.key = id))
      (entries'.find? (·.key = id)) := by
  induction h with
  | nil => exact .none
  | @cons e e' _ _ he _ ih =>
      by_cases hkey : e.key = id
      · have hkey' : e'.key = id := he.key ▸ hkey
        simpa [hkey, hkey'] using Option.Rel.some he
      · have hkey' : e'.key ≠ id := he.key ▸ hkey
        simpa [hkey, hkey'] using ih

theorem touch_matches (h : List.Forall₂ (CacheEntry.Matches R) entries entries') (id : Identity)
    (time : Nat) : List.Forall₂ (CacheEntry.Matches R) (touch id time entries)
      (touch id time entries') := by
  rw [touch, touch, List.forall₂_map_left_iff, List.forall₂_map_right_iff]
  refine h.imp fun e e' he => ?_
  by_cases hkey : e.key = id
  · rw [if_pos hkey, if_pos (he.key ▸ hkey)]
    exact ⟨he.key, he.client, rfl⟩
  · rw [if_neg hkey, if_neg (he.key ▸ hkey)]
    exact he

theorem stalest_matches (h : List.Forall₂ (CacheEntry.Matches R) entries entries') :
    Option.Rel (CacheEntry.Matches R) (stalest entries) (stalest entries') := by
  cases h with
  | nil => exact .none
  | cons he hrest =>
      -- Which of two entries is staler is the same on both sides, since their times are.
      refine .some (List.rel_foldl ?_ he hrest)
      intro old old' hold e e' he
      dsimp only
      by_cases hlt : e.lastUsed < old.lastUsed
      · rw [if_pos hlt, if_pos (he.lastUsed ▸ hold.lastUsed ▸ hlt)]
        exact he
      · rw [if_neg hlt, if_neg (he.lastUsed ▸ hold.lastUsed ▸ hlt)]
        exact hold

theorem dropStalest_matches (h : List.Forall₂ (CacheEntry.Matches R) entries entries') :
    List.Forall₂ (CacheEntry.Matches R) (dropStalest entries) (dropStalest entries') := by
  have hstalest := stalest_matches h
  unfold dropStalest
  generalize stalest entries = old, stalest entries' = old' at hstalest
  cases hstalest with
  | none => exact .nil
  | some hold =>
      refine List.rel_filter ?_ h
      intro e e' he
      simp [he.key, hold.key]

theorem dropStalestTimes_matches (n : Nat)
    (h : List.Forall₂ (CacheEntry.Matches R) entries entries') :
    List.Forall₂ (CacheEntry.Matches R) (dropStalestTimes n entries)
      (dropStalestTimes n entries') := by
  induction n generalizing entries entries' with
  | zero => exact h
  | succ n ih => exact ih (dropStalest_matches h)

/-! ### Operations -/

variable {c : ClientCache κ} {d : ClientCache κ'} {built : Client κ} {built' : Client κ'}

namespace Matches

theorem find? (h : c.Matches R d) (id : Identity) :
    Option.Rel (CacheEntry.Matches R) (c.find? id) (d.find? id) := find?_matches h.entries id

theorem client? (h : c.Matches R d) (id : Identity) :
    Option.Rel (Client.Matches R) (c.client? id) (d.client? id) := by
  have hfind := h.find? id
  unfold ClientCache.client?
  generalize c.find? id = found, d.find? id = found' at hfind
  cases hfind with
  | none => exact .none
  | some he => exact .some he.client

theorem contains_eq (h : c.Matches R d) (id : Identity) : c.contains id = d.contains id := by
  have hfind := h.find? id
  unfold ClientCache.contains
  generalize c.find? id = found, d.find? id = found' at hfind
  cases hfind with
  | none => rfl
  | some he => rfl

theorem size_eq (h : c.Matches R d) : c.size = d.size := h.entries.length_eq

theorem isEmpty_eq (h : c.Matches R d) : c.isEmpty = d.isEmpty := by
  have hentries := h.entries
  unfold ClientCache.isEmpty
  generalize c.entries = entries, d.entries = entries' at hentries
  cases hentries with
  | nil => rfl
  | cons he hrest => rfl

theorem clear (h : c.Matches R d) : c.clear.Matches R d.clear :=
  ⟨h.family, h.capacity, h.clock, .nil⟩

theorem tick (h : c.Matches R d) :
    Matches R { c with clock := c.clock + 1 } { d with clock := d.clock + 1 } :=
  ⟨h.family, h.capacity, congrArg (· + 1) h.clock, h.entries⟩

theorem touch (h : c.Matches R d) (id : Identity) :
    Matches R { c with clock := c.clock + 1, entries := touch id (c.clock + 1) c.entries }
      { d with clock := d.clock + 1, entries := touch id (d.clock + 1) d.entries } := by
  refine ⟨h.family, h.capacity, congrArg (· + 1) h.clock, ?_⟩
  rw [h.clock]
  exact touch_matches h.entries id _

theorem lookup (h : c.Matches R d) (id : Identity) : (c.lookup id).2.Matches R (d.lookup id).2 := by
  have hfind := h.find? id
  unfold ClientCache.lookup
  generalize c.find? id = found, d.find? id = found' at hfind
  cases hfind with
  | none => exact h.tick
  | some he => exact h.touch id

/-- Entries of the same number make room for one more in the same way. -/
theorem makeRoom (h : c.Matches R d) :
    List.Forall₂ (CacheEntry.Matches R) c.makeRoom d.makeRoom := by
  unfold ClientCache.makeRoom
  rw [h.entries.length_eq, h.capacity]
  exact dropStalestTimes_matches _ h.entries

theorem store (h : c.Matches R d) (id : Identity) (hbuilt : built.Matches R built') :
    (c.store id built).1.Matches R (d.store id built').1 ∧
      (c.store id built).2.Matches R (d.store id built').2 := by
  have hfind := h.find? id
  unfold ClientCache.store
  generalize c.find? id = found, d.find? id = found' at hfind
  cases hfind with
  | none =>
      exact ⟨hbuilt, h.family, h.capacity, congrArg (· + 1) h.clock,
        .cons ⟨rfl, hbuilt, congrArg (· + 1) h.clock⟩ h.makeRoom⟩
  | some he => exact ⟨he.client, h.touch id⟩

end Matches

end ClientCache

end ClusterAccess
