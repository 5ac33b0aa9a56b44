import ClusterAccess.Proofs.Resource.Reference
import ClusterAccess.Request.Accessor

/-!
What each accessor stands for, apart from how its plan is put together: one operation on one target,
and the choices that its caller does not make. An accessor has a plan exactly if what its caller
names is a reference, and its plan is then the one that is read off here. Whatever else is to be
known of the plans of accessors follows from this one equation.
-/

namespace ClusterAccess

namespace Operation

/-- The verb that an operation is reviewed as. To read logs is to get them. -/
def reviewedVerb : Operation → String
  | logs _ => "get"
  | operation => operation.verb

def subresource : Operation → Option String
  | logs _ => some "log"
  | _ => none

def onObject : Operation → Bool
  | list _ => false
  | create .. => false
  | _ => true

end Operation

namespace Accessor

def wanted : Accessor → ResourceRef
  | listNamespaces _ => ⟨.namespaces, none, none⟩
  | listPods ns _ _ => ⟨.pods, some ns, none⟩
  | podLogs ns pod _ _ => ⟨.pods, some ns, some pod⟩
  | createPvc ns _ _ | listPvcs ns => ⟨.persistentVolumeClaims, some ns, none⟩
  | getPvc ns name | deletePvc ns name => ⟨.persistentVolumeClaims, some ns, some name⟩
  | patchPvc ns name _ _ => ⟨.persistentVolumeClaims, some ns, some name⟩
  | listPvcEvents ns name => ⟨.persistentVolumeClaims, some ns, some name⟩
  | getSecret ns name _ => ⟨.secrets, some ns, some name⟩
  | createSecret ns _ _ => ⟨.secrets, some ns, none⟩
  | createNotebook ns _ _ | listNotebooks ns => ⟨.notebooks, some ns, none⟩
  | getNotebook ns name | deleteNotebook ns name => ⟨.notebooks, some ns, some name⟩
  | patchNotebook ns name _ => ⟨.notebooks, some ns, some name⟩
  | listNotebookEvents ns name => ⟨.notebooks, some ns, some name⟩
  | listPodDefaults ns => ⟨.podDefaults, some ns, none⟩
  | listStorageClasses | defaultStorageClass => ⟨.storageClasses, none, none⟩
  | createCustomResource kind ns _ | listCustomResources kind ns => ⟨kind, ns, none⟩
  | getCustomResource kind ns name => ⟨kind, ns, some name⟩
  | deleteCustomResource kind ns name _ => ⟨kind, ns, some name⟩
  | patchCustomResource kind ns name _ => ⟨kind, ns, some name⟩

/-- What an accessor acts on. That is what its caller names, but the events of an object are
themselves a collection, and the object is only in their selector. -/
def target : Accessor → ResourceRef
  | listPvcEvents ns _ | listNotebookEvents ns _ => ⟨.events, some ns, none⟩
  | accessor => accessor.wanted

def propagation? : Accessor → Option Propagation
  | deleteCustomResource _ _ _ propagation => propagation
  | _ => none

/-- Claims are patched by the rules of their own kind, all other objects as plain documents. -/
def patchStrategy : Accessor → PatchStrategy
  | patchPvc .. => .strategicMerge
  | _ => .merge

/-- What an accessor does to its target, with the arguments of its caller. Bodies, selectors and
containers go into the operation as they are; nothing is created for trial but claims and notebooks,
and only their callers can want that. -/
def operation : Accessor → Operation
  | listPods _ selector _ => .list { labels := selector }
  | listPvcEvents _ name =>
    .list (.involvedObject ResourceKind.persistentVolumeClaims.kind name)
  | listNotebookEvents _ name => .list (.involvedObject ResourceKind.notebooks.kind name)
  | podLogs _ _ container _ => .logs container
  | createPvc _ body dryRun | createNotebook _ body dryRun => .create body dryRun
  | createSecret _ body _ | createCustomResource _ _ body => .create body false
  | getPvc .. | getSecret .. | getNotebook .. | getCustomResource .. => .get
  | accessor@(deletePvc ..) | accessor@(deleteNotebook ..)
  | accessor@(deleteCustomResource ..) => .delete (accessor.propagation?.getD .foreground)
  | accessor@(patchPvc _ _ body _) | accessor@(patchNotebook _ _ body)
  | accessor@(patchCustomResource _ _ _ body) => .patch body accessor.patchStrategy
  | listNamespaces _ | listPvcs _ | listNotebooks _ | listPodDefaults _ => .list {}
  | listStorageClasses | defaultStorageClass | listCustomResources .. => .list {}

def family : Accessor → Family
  | listNamespaces _ | listPods .. | podLogs .. => .core
  | createPvc .. | getPvc .. | listPvcs _ | deletePvc .. | patchPvc .. => .core
  | getSecret .. | createSecret .. => .core
  | listPvcEvents .. | listNotebookEvents .. => .core
  | listStorageClasses | defaultStorageClass => .storage
  | getNotebook .. | createNotebook .. | listNotebooks _ | deleteNotebook .. => .customObjects
  | patchNotebook .. | listPodDefaults _ => .customObjects
  | createCustomResource .. | getCustomResource .. | listCustomResources .. => .customObjects
  | deleteCustomResource .. | patchCustomResource .. => .customObjects

/-- Whom the call of an accessor is to be attributed to. Those that are not told act as the
caller. -/
def attribution : Accessor → Attribution
  | listNamespaces attribution => attribution
  | listPods _ _ attribution => attribution
  | podLogs _ _ _ attribution => attribution
  | patchPvc _ _ _ attribution => attribution
  | getSecret _ _ attribution => attribution
  | createSecret _ _ attribution => attribution
  | _ => .caller

def listsNamespaces : Accessor → Bool
  | listNamespaces _ => true
  | _ => false

def payload : Accessor → Payload
  | defaultStorageClass => .defaultStorageClass
  | _ => .whole

/-- The plan of an accessor whose caller names a reference. The check is for the operation on its
target, down to the part of the object that is to be read. -/
def planned (accessor : Accessor) : Plan where
  check := { AccessCheck.ofTarget accessor.operation.reviewedVerb accessor.target with
    subresource := accessor.operation.subresource }
  gating := if accessor.listsNamespaces then .always else .strictOnly
  family := accessor.family
  attribution := accessor.attribution
  call := ⟨accessor.target, accessor.operation⟩
  payload := accessor.payload

variable {accessor : Accessor} {plan : Plan} {f : ReferenceFault} {wanted : ResourceRef}

/-- Events can be listed in the namespace of every object that can be addressed. -/
theorem eventsOf_eq (kind : ResourceKind) (label name : String) :
    eventsOf kind label name = (object kind label name).map fun _ =>
      .ofCall .core ⟨.events, some label, none⟩ (.list (.involvedObject kind.kind name)) := by
  refine bind_eq_map fun target htarget => ?_
  obtain ⟨objects, hobjects, -⟩ := bind_eq_ok.mp htarget
  obtain ⟨-, hlabel, -⟩ := ResourceRef.namespaced_eq_ok.mp hobjects
  have hevents : ResourceRef.namespaced .events label = .ok ⟨.events, some label, none⟩ :=
    ResourceRef.namespaced_eq_ok.mpr ⟨rfl, hlabel, rfl⟩
  rw [hevents]
  rfl

/-- The plan of an accessor is the one that is read off it, if what its caller names is a reference,
and the fault of what is named otherwise. -/
theorem plan_eq (accessor : Accessor) :
    accessor.plan = accessor.wanted.check.map fun _ => accessor.planned := by
  -- The constructors hand a reference on as it was named, so each plan is for what was wanted.
  have hobject {x : Except ReferenceFault ResourceRef} {make : ResourceRef → Plan}
      (hx : accessor.wanted.check = x) (hmake : make accessor.wanted = accessor.planned) :
      (do return make (← x)) = accessor.wanted.check.map fun _ => accessor.planned := by
    rw [hx]
    refine bind_eq_map fun target htarget => ?_
    obtain ⟨rfl, -⟩ := ResourceRef.check_eq_ok (hx.trans htarget)
    exact congrArg Except.ok hmake
  cases accessor with
  | listPvcEvents ns name => exact eventsOf_eq _ ns name
  | listNotebookEvents ns name => exact eventsOf_eq _ ns name
  | podLogs | getPvc | deletePvc | patchPvc | getSecret | getNotebook | deleteNotebook
  | patchNotebook | getCustomResource | deleteCustomResource | patchCustomResource =>
      exact hobject rfl rfl
  | _ => exact hobject (ResourceRef.check_collection _ _) rfl

theorem plan_eq_ok : accessor.plan = .ok plan ↔
    (∃ target, accessor.wanted.check = .ok target) ∧ plan = accessor.planned := by
  rw [plan_eq]
  cases accessor.wanted.check with
  | error f => simp [Except.map]
  | ok target => simp [Except.map, eq_comm]

/-- An accessor has no plan exactly if what its caller names is no reference. -/
theorem plan_eq_error : accessor.plan = .error f ↔ accessor.wanted.check = .error f := by
  rw [plan_eq]
  cases accessor.wanted.check <;> simp [Except.map]

theorem exists_plan_iff :
    (∃ plan, accessor.plan = .ok plan) ↔ ∃ target, accessor.wanted.check = .ok target := by
  simp [plan_eq_ok]

/-- What is sent for an accessor is its operation on its target, with the arguments of its
caller. -/
theorem call_of_plan (h : accessor.plan = .ok plan) :
    plan.call = ⟨accessor.target, accessor.operation⟩ := by
  obtain ⟨-, rfl⟩ := plan_eq_ok.mp h
  rfl

theorem attribution_and_gating_of_plan (h : accessor.plan = .ok plan) :
    plan.attribution = accessor.attribution ∧
      plan.gating = if accessor.listsNamespaces then .always else .strictOnly := by
  obtain ⟨-, rfl⟩ := plan_eq_ok.mp h
  exact ⟨rfl, rfl⟩

theorem built_target (h : accessor.wanted.check = .ok wanted) : accessor.target.Built := by
  obtain ⟨rfl, -⟩ := ResourceRef.check_eq_ok h
  have hbuilt := ResourceRef.built_of_check h
  cases accessor with
  | listPvcEvents ns name | listNotebookEvents ns name =>
      have hlabel : isLabel ns = true := hbuilt.valid.ns ns rfl
      exact .namespaced .events ns _ (ResourceRef.namespaced_eq_ok.mpr ⟨rfl, hlabel, rfl⟩)
  | _ => exact hbuilt

theorem target_of_plan (h : accessor.plan = .ok plan) :
    plan.call.target.Scoped ∧
      plan.call.target.name.isSome = plan.call.operation.onObject := by
  obtain ⟨⟨wanted, hwanted⟩, rfl⟩ := plan_eq_ok.mp h
  exact ⟨(built_target hwanted).valid.isScoped, by cases accessor <;> rfl⟩

/-- Accessors act on references that the constructors have built, and read logs of pods only. -/
theorem built_of_plan (h : accessor.plan = .ok plan) :
    plan.call.target.Built ∧
      ∀ container, plan.call.operation = .logs container → plan.call.target.kind = .pods := by
  obtain ⟨⟨wanted, hwanted⟩, rfl⟩ := plan_eq_ok.mp h
  refine ⟨built_target hwanted, fun container hlogs => ?_⟩
  cases accessor with
  | podLogs => rfl
  | _ => cases hlogs

end Accessor

end ClusterAccess
