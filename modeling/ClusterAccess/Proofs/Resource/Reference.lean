import ClusterAccess.Resource.Reference

/-!
When references are accepted, and as what. A constructor adds nothing of its own and drops
nothing: a reference that it accepts has the kind, the namespace and the name that it was given.
-/

namespace ClusterAccess

/-- A sequence of two attempts succeeds when both do. -/
theorem bind_eq_ok {ε α β : Type} {x : Except ε α} {f : α → Except ε β} {b : β} :
    x >>= f = .ok b ↔ ∃ a, x = .ok a ∧ f a = .ok b := by
  cases x with
  | error e => simp [bind, Except.bind]
  | ok a => simp [bind, Except.bind]

/-- A sequence of two attempts fails as the first does, or as the second does after it. -/
theorem bind_eq_error {ε α β : Type} {x : Except ε α} {f : α → Except ε β} {e : ε} :
    x >>= f = .error e ↔ x = .error e ∨ ∃ a, x = .ok a ∧ f a = .error e := by
  cases x with
  | error e => simp [bind, Except.bind]
  | ok a => simp [bind, Except.bind]

/-- If the second of two attempts can only give one thing, the first decides whether it does. -/
theorem bind_eq_map {ε α β : Type} {x : Except ε α} {f : α → Except ε β} {b : β}
    (hf : ∀ a, x = .ok a → f a = .ok b) : x >>= f = x.map fun _ => b := by
  cases x with
  | error e => rfl
  | ok a => exact hf a rfl

theorem mapError_eq_ok {ε ε' α : Type} {x : Except ε α} {f : ε → ε'} {a : α} :
    x.mapError f = .ok a ↔ x = .ok a := by
  cases x with
  | error e =>
      show Except.error (f e) = .ok a ↔ _
      simp
  | ok b =>
      show Except.ok b = .ok a ↔ _
      simp

theorem ne_empty_of_isLabel {ns : String} (h : isLabel ns = true) : ns ≠ "" := by
  rintro rfl
  simp [isLabel] at h

namespace ResourceRef

variable {kind : ResourceKind} {ns : Option String} {label name : String} {r target : ResourceRef}

/-- The namespace is there exactly when objects of the kind live in one. -/
def Scoped (r : ResourceRef) : Prop := r.ns.isSome = r.kind.namespaced

theorem namespaced_eq_ok :
    namespaced kind label = .ok r ↔
      kind.namespaced = true ∧ isLabel label = true ∧ r = ⟨kind, some label, none⟩ := by
  unfold namespaced
  cases hkind : kind.namespaced with
  | false => simp
  | true =>
      cases hlabel : isLabel label with
      | false =>
          by_cases hempty : label = "" <;> simp [hempty]
      | true => simp [ne_empty_of_isLabel hlabel, eq_comm]

theorem cluster_eq_ok :
    cluster kind = .ok r ↔ kind.namespaced = false ∧ r = ⟨kind, none, none⟩ := by
  unfold cluster
  cases hkind : kind.namespaced <;> simp [eq_comm]

/-- A collection is as it was asked for, in a namespace exactly when its kind is. -/
theorem within_eq_ok (h : within kind ns = .ok r) : r = ⟨kind, ns, none⟩ ∧ r.Scoped := by
  unfold within at h
  split at h
  next hkind =>
    obtain ⟨-, hlabel, rfl⟩ := namespaced_eq_ok.mp h
    cases ns with
    | none => simp [isLabel] at hlabel
    | some label => exact ⟨rfl, hkind.symm⟩
  next hkind =>
    cases ns with
    | some label => simp at h
    | none =>
        obtain ⟨hkind, rfl⟩ := cluster_eq_ok.mp h
        exact ⟨rfl, hkind.symm⟩

theorem named_eq_ok :
    r.named name = .ok target ↔
      (name ≠ "" ∧ isSafeName name = true) ∧ target = { r with name := some name } := by
  unfold named
  by_cases hempty : name = ""
  · simp [hempty]
  · cases hsafe : isSafeName name <;> simp [hempty, eq_comm]

/-- Puts a reference together again from its parts, by the constructors. -/
def check (r : ResourceRef) : Except ReferenceFault ResourceRef := do
  let objects ← within r.kind r.ns
  match r.name with
  | none => return objects
  | some name => objects.named name

theorem check_collection (kind : ResourceKind) (ns : Option String) :
    check ⟨kind, ns, none⟩ = within kind ns := bind_pure _

/-- The constructors accept a reference as it is or not at all. -/
theorem check_eq_ok (h : r.check = .ok target) : target = r ∧ r.Scoped := by
  obtain ⟨objects, hobjects, htarget⟩ := bind_eq_ok.mp h
  obtain ⟨rfl, hscoped⟩ := within_eq_ok hobjects
  obtain ⟨kind, ns, name⟩ := r
  cases name with
  | none => exact ⟨(Except.ok.inj htarget).symm, hscoped⟩
  | some name =>
      obtain ⟨-, rfl⟩ := named_eq_ok.mp htarget
      exact ⟨rfl, hscoped⟩

/-- What the constructors make, one after the other. -/
inductive Built : ResourceRef → Prop where
  | namespaced (kind : ResourceKind) (label : String) (r : ResourceRef)
      (h : ResourceRef.namespaced kind label = .ok r) : Built r
  | cluster (kind : ResourceKind) (r : ResourceRef) (h : ResourceRef.cluster kind = .ok r) : Built r
  | within (kind : ResourceKind) (ns : Option String) (r : ResourceRef)
      (h : ResourceRef.within kind ns = .ok r) : Built r
  | named (r target : ResourceRef) (name : String) (hr : Built r) (h : r.named name = .ok target) :
      Built target

theorem built_of_check (h : r.check = .ok target) : target.Built := by
  obtain ⟨objects, hobjects, htarget⟩ := bind_eq_ok.mp h
  have hbuilt : objects.Built := .within _ _ _ hobjects
  cases hname : r.name with
  | none =>
      rw [hname] at htarget
      exact Except.ok.inj htarget ▸ hbuilt
  | some name =>
      rw [hname] at htarget
      exact .named _ _ _ hbuilt htarget

/-- A reference whose parts are what they should be. -/
structure Valid (r : ResourceRef) : Prop where
  isScoped : r.Scoped
  ns : ∀ label, r.ns = some label → isLabel label = true
  name : ∀ name, r.name = some name → name ≠ "" ∧ isSafeName name = true

theorem valid_of_namespaced (h : namespaced kind label = .ok r) : r.Valid := by
  obtain ⟨hkind, hlabel, rfl⟩ := namespaced_eq_ok.mp h
  exact ⟨hkind.symm, by rintro _ ⟨⟩; exact hlabel, by simp⟩

theorem valid_of_cluster (h : cluster kind = .ok r) : r.Valid := by
  obtain ⟨hkind, rfl⟩ := cluster_eq_ok.mp h
  exact ⟨hkind.symm, by simp, by simp⟩

theorem Built.valid (h : r.Built) : r.Valid := by
  induction h with
  | namespaced kind label r h => exact valid_of_namespaced h
  | cluster kind r h => exact valid_of_cluster h
  | within kind ns r h =>
      unfold ResourceRef.within at h
      split at h
      next => exact valid_of_namespaced h
      next =>
        cases ns with
        | none => exact valid_of_cluster h
        | some label => simp at h
  | named r target name hr h ih =>
      obtain ⟨hname, rfl⟩ := named_eq_ok.mp h
      exact ⟨ih.isScoped, ih.ns, by rintro _ ⟨⟩; exact hname⟩

end ResourceRef

end ClusterAccess
