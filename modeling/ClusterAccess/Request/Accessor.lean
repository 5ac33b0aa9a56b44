import ClusterAccess.Request.Script

/-!
The accessors: everything a caller can ask for. An accessor comes down to a plan, which says once
what is asked of the gate, whose client from which cache is used, and what is then done with it.
All plans are carried out in the same way.
-/

namespace ClusterAccess

/-- Whether the gate stands before a plan in every mode. -/
inductive Gating where
  | always
  | strictOnly
  deriving DecidableEq

inductive Payload where
  | whole
  | defaultStorageClass
  deriving DecidableEq

structure Plan where
  check : AccessCheck
  gating : Gating := .strictOnly
  family : Family
  attribution : Attribution := .caller
  call : ClusterCall
  payload : Payload := .whole

inductive Accessor where
  | listNamespaces (attribution : Attribution)
  | listPods (ns : String) (selector : Option String) (attribution : Attribution)
  | podLogs (ns pod : String) (container : Option String) (attribution : Attribution)
  | createPvc (ns : String) (body : Json) (dryRun : Bool)
  | getPvc (ns name : String)
  | listPvcs (ns : String)
  | deletePvc (ns name : String)
  | patchPvc (ns name : String) (body : Json) (attribution : Attribution)
  | listPvcEvents (ns name : String)
  | getSecret (ns name : String) (attribution : Attribution)
  | createSecret (ns : String) (body : Json) (attribution : Attribution)
  | getNotebook (ns name : String)
  | createNotebook (ns : String) (body : Json) (dryRun : Bool)
  | listNotebooks (ns : String)
  | deleteNotebook (ns name : String)
  | patchNotebook (ns name : String) (body : Json)
  | listNotebookEvents (ns name : String)
  | listPodDefaults (ns : String)
  | listStorageClasses
  | defaultStorageClass
  | createCustomResource (kind : ResourceKind) (ns : Option String) (body : Json)
  | getCustomResource (kind : ResourceKind) (ns : Option String) (name : String)
  | listCustomResources (kind : ResourceKind) (ns : Option String)
  | deleteCustomResource (kind : ResourceKind) (ns : Option String) (name : String)
      (propagation : Option Propagation)
  | patchCustomResource (kind : ResourceKind) (ns : Option String) (name : String) (body : Json)

namespace Plan

/-- The plan whose check asks exactly for the operation on its target. -/
def ofCall (family : Family) (target : ResourceRef) (operation : Operation) : Plan :=
  { check := .ofTarget operation.verb target, family, call := ⟨target, operation⟩ }

end Plan

namespace Accessor

def object (kind : ResourceKind) (ns name : String) : Except ReferenceFault ResourceRef := do
  (← ResourceRef.namespaced kind ns).named name

def customObject (kind : ResourceKind) (ns : Option String) (name : String) :
    Except ReferenceFault ResourceRef := do
  (← ResourceRef.within kind ns).named name

def eventsOf (kind : ResourceKind) (ns name : String) : Except ReferenceFault Plan := do
  let _ ← object kind ns name
  let events ← ResourceRef.namespaced .events ns
  return .ofCall .core events (.list (.involvedObject kind.kind name))

def plan : Accessor → Except ReferenceFault Plan
  | listNamespaces attribution => do
    let target ← ResourceRef.cluster .namespaces
    return { Plan.ofCall .core target (.list {}) with gating := .always, attribution }
  | listPods ns selector attribution => do
    let target ← ResourceRef.namespaced .pods ns
    return { Plan.ofCall .core target (.list { labels := selector }) with attribution }
  | podLogs ns pod container attribution => do
    let target ← object .pods ns pod
    let check := (AccessCheck.ofTarget "get" target).withSubresource "log"
    return { Plan.ofCall .core target (.logs container) with check, attribution }
  | createPvc ns body dryRun => do
    return .ofCall .core (← ResourceRef.namespaced .persistentVolumeClaims ns) (.create body dryRun)
  | getPvc ns name => do
    return .ofCall .core (← object .persistentVolumeClaims ns name) .get
  | listPvcs ns => do
    return .ofCall .core (← ResourceRef.namespaced .persistentVolumeClaims ns) (.list {})
  | deletePvc ns name => do
    return .ofCall .core (← object .persistentVolumeClaims ns name) (.delete .standard)
  | patchPvc ns name body attribution => do
    let target ← object .persistentVolumeClaims ns name
    return { Plan.ofCall .core target (.patch body .strategicMerge) with attribution }
  | listPvcEvents ns name => eventsOf .persistentVolumeClaims ns name
  | getSecret ns name attribution => do
    let target ← object .secrets ns name
    return { Plan.ofCall .core target .get with attribution }
  | createSecret ns body attribution => do
    let target ← ResourceRef.namespaced .secrets ns
    return { Plan.ofCall .core target (.create body false) with attribution }
  | getNotebook ns name => do
    return .ofCall .customObjects (← object .notebooks ns name) .get
  | createNotebook ns body dryRun => do
    return .ofCall .customObjects (← ResourceRef.namespaced .notebooks ns) (.create body dryRun)
  | listNotebooks ns => do
    return .ofCall .customObjects (← ResourceRef.namespaced .notebooks ns) (.list {})
  | deleteNotebook ns name => do
    return .ofCall .customObjects (← object .notebooks ns name) (.delete .standard)
  | patchNotebook ns name body => do
    return .ofCall .customObjects (← object .notebooks ns name) (.patch body .merge)
  | listNotebookEvents ns name => eventsOf .notebooks ns name
  | listPodDefaults ns => do
    return .ofCall .customObjects (← ResourceRef.namespaced .podDefaults ns) (.list {})
  | listStorageClasses => do
    return .ofCall .storage (← ResourceRef.cluster .storageClasses) (.list {})
  | defaultStorageClass => do
    let target ← ResourceRef.cluster .storageClasses
    return { Plan.ofCall .storage target (.list {}) with payload := .defaultStorageClass }
  | createCustomResource kind ns body => do
    return .ofCall .customObjects (← ResourceRef.within kind ns) (.create body false)
  | getCustomResource kind ns name => do
    return .ofCall .customObjects (← customObject kind ns name) .get
  | listCustomResources kind ns => do
    return .ofCall .customObjects (← ResourceRef.within kind ns) (.list {})
  | deleteCustomResource kind ns name propagation => do
    return .ofCall .customObjects (← customObject kind ns name)
      (.delete (propagation.getD .standard))
  | patchCustomResource kind ns name body => do
    return .ofCall .customObjects (← customObject kind ns name) (.patch body .merge)

end Accessor

def defaultClassAnnotations : List String :=
  ["storageclass.kubernetes.io/is-default-class",
    "storageclass.beta.kubernetes.io/is-default-class"]

def isDefaultClass (storageClass : Json) : Bool :=
  match (storageClass.field? "metadata").bind (·.field? "annotations") with
  | some marks =>
    defaultClassAnnotations.any fun key => (marks.field? key).bind (·.text?) == some "true"
  | none => false

def pickDefaultClass (list : Json) : Option Json :=
  ((list.field? "items").bind (·.items?)).bind (·.find? isDefaultClass)

def Payload.of (payload : Payload) (answer : Json) : Json :=
  match payload with
  | .whole => answer
  | .defaultStorageClass => (pickDefaultClass answer).getD .null

namespace RequestContext

variable {κ : Type}

def stillActive (ctx : RequestContext) : ExceptT Fault (Script κ) Unit := do
  let cancelled ← ExceptT.lift (Script.isCancelled ctx.token)
  ExceptT.mk (pure (ensureActive cancelled))

end RequestContext

/-- The gate always judges the caller, also when the call is then made as the service. -/
def Gating.enforce {κ : Type} (gating : Gating) (gate : AuthorizationGate) (id : Identity)
    (check : AccessCheck) : Script κ (Except Fault Unit) :=
  match gating with
  | .always => gate.authorize Script.review id check
  | .strictOnly => gate.authorizeIfStrict Script.review id check

def Plan.script {κ : Type} (plan : Plan) (gate : AuthorizationGate) (ctx : RequestContext) :
    ExceptT Fault (Script κ) Json := do
  ctx.stillActive
  ExceptT.mk (plan.gating.enforce gate ctx.identity plan.check)
  let client ← ExceptT.mk (Script.obtain plan.family (ctx.identityFor plan.attribution))
  ctx.stillActive
  let answer ← ExceptT.mk (Script.perform client plan.call)
  return plan.payload.of answer

/-- An accessor refuses wrong names before it does anything else. -/
def Accessor.script {κ : Type} (accessor : Accessor) (gate : AuthorizationGate)
    (ctx : RequestContext) : Script κ (Except Fault Json) :=
  match accessor.plan with
  | .error f => pure (.error f.toFault)
  | .ok plan => (plan.script gate ctx).run

def canI {κ : Type} (gate : AuthorizationGate) (ctx : RequestContext) (verb : String)
    (kind : ResourceKind) (ns : Option String) : Script κ (Except Fault Bool) :=
  ExceptT.run do
    ctx.stillActive
    ExceptT.mk (gate.canI Script.review ctx.identity (.ofKind verb kind ns))

end ClusterAccess
