import ClusterAccess.Config.Environment
import ClusterAccess.Config.Resolved

/-!
The twelve settings one by one. What a layer and a configuration say of a setting is read the same
way for all of them, so that laying layers over each other and filling in the standard values are
one fact each, whatever section the setting is in and whatever else that section holds. So is
reading the environment: it has a value or a fault for each setting, and the first fault counts.
-/

namespace ClusterAccess

inductive Setting where
  | kubeconfig
  | context
  | preferInCluster
  | coreCapacity
  | storageCapacity
  | customObjectsCapacity
  | userHeader
  | userPrefix
  | disableAuth
  | gateMode
  | logLevel
  | logFormat
  deriving DecidableEq

namespace Setting

def Value : Setting → Type
  | kubeconfig | context | userHeader | userPrefix | logLevel => String
  | preferInCluster | disableAuth => Bool
  | coreCapacity | storageCapacity | customObjectsCapacity => Nat
  | gateMode => GateMode
  | logFormat => LogFormat

/-- The value of a setting that no source sets. -/
def standard? : (s : Setting) → Option s.Value
  | kubeconfig => none
  | context => none
  | preferInCluster => some true
  | coreCapacity => some (100 : Nat)
  | storageCapacity => some (100 : Nat)
  | customObjectsCapacity => some (100 : Nat)
  | userHeader => some "kubeflow-userid"
  | userPrefix => some ""
  | disableAuth => some false
  | gateMode => some GateMode.selective
  | logLevel => some "info,kube_client=warn"
  | logFormat => some LogFormat.text

def variableName : Setting → String
  | kubeconfig => "CRUD_BACKEND_KUBECONFIG"
  | context => "CRUD_BACKEND_KUBE_CONTEXT"
  | preferInCluster => "CRUD_BACKEND_KUBE_PREFER_IN_CLUSTER"
  | coreCapacity => "CRUD_BACKEND_CACHE_CORE_CAPACITY"
  | storageCapacity => "CRUD_BACKEND_CACHE_STORAGE_CAPACITY"
  | customObjectsCapacity => "CRUD_BACKEND_CACHE_CUSTOM_OBJECTS_CAPACITY"
  | userHeader => "CRUD_BACKEND_USERID_HEADER"
  | userPrefix => "CRUD_BACKEND_USERID_PREFIX"
  | disableAuth => "CRUD_BACKEND_DISABLE_AUTH"
  | gateMode => "CRUD_BACKEND_AUTH_GATE_MODE"
  | logLevel => "CRUD_BACKEND_LOG_LEVEL"
  | logFormat => "CRUD_BACKEND_LOG_FORMAT"

def read : (s : Setting) → String → Except ValueFault s.Value
  | kubeconfig | context | userHeader | userPrefix | logLevel => fun text => .ok text
  | preferInCluster | disableAuth => Environment.boolean
  | coreCapacity | storageCapacity | customObjectsCapacity => Environment.capacity
  | gateMode => Environment.gateMode
  | logFormat => Environment.logFormat

/-- The settings of which not every text is a value, in the order in which they are read. -/
def typed : List Setting :=
  [preferInCluster, coreCapacity, storageCapacity, customObjectsCapacity, disableAuth, gateMode,
    logFormat]

end Setting

def ConfigLayer.value? (l : ConfigLayer) : (s : Setting) → Option s.Value
  | .kubeconfig => l.kube.bind (·.kubeconfig)
  | .context => l.kube.bind (·.context)
  | .preferInCluster => l.kube.bind (·.preferInCluster)
  | .coreCapacity => l.cache.bind (·.core)
  | .storageCapacity => l.cache.bind (·.storage)
  | .customObjectsCapacity => l.cache.bind (·.customObjects)
  | .userHeader => l.auth.bind (·.userHeader)
  | .userPrefix => l.auth.bind (·.userPrefix)
  | .disableAuth => l.auth.bind (·.disableAuth)
  | .gateMode => l.auth.bind (·.gateMode)
  | .logLevel => l.logging.bind (·.level)
  | .logFormat => l.logging.bind (·.format)

/-- What a configuration has for a setting. Only two settings may be without a value. -/
def Config.value? (c : Config) : (s : Setting) → Option s.Value
  | .kubeconfig => c.kube.kubeconfig
  | .context => c.kube.context
  | .preferInCluster => some c.kube.preferInCluster
  | .coreCapacity => some c.cache.core
  | .storageCapacity => some c.cache.storage
  | .customObjectsCapacity => some c.cache.customObjects
  | .userHeader => some c.auth.userHeader
  | .userPrefix => some c.auth.userPrefix
  | .disableAuth => some c.auth.disableAuth
  | .gateMode => some c.auth.gateMode
  | .logLevel => some c.logging.level
  | .logFormat => some c.logging.format

/-- Nothing is in a configuration but the values of its settings. -/
theorem Config.eq_of_value? {c d : Config} (h : ∀ s, c.value? s = d.value? s) : c = d := by
  obtain ⟨⟨_, _, _⟩, ⟨_, _, _⟩, ⟨_, _, _, _⟩, ⟨_, _⟩⟩ := c
  obtain ⟨⟨_, _, _⟩, ⟨_, _, _⟩, ⟨_, _, _, _⟩, ⟨_, _⟩⟩ := d
  obtain rfl := h .kubeconfig
  obtain rfl := h .context
  obtain rfl := Option.some.inj (h .preferInCluster)
  obtain rfl := Option.some.inj (h .coreCapacity)
  obtain rfl := Option.some.inj (h .storageCapacity)
  obtain rfl := Option.some.inj (h .customObjectsCapacity)
  obtain rfl := Option.some.inj (h .userHeader)
  obtain rfl := Option.some.inj (h .userPrefix)
  obtain rfl := Option.some.inj (h .disableAuth)
  obtain rfl := Option.some.inj (h .gateMode)
  obtain rfl := Option.some.inj (h .logLevel)
  obtain rfl := Option.some.inj (h .logFormat)
  rfl

/-- A field of two sections laid over each other is the upper one's if it has one. A section
without that field hides nothing. -/
theorem bind_mergeSection {α β : Type} {merge : α → α → α} {field : α → Option β}
    (hmerge : ∀ lower upper, field (merge lower upper) = (field upper).or (field lower))
    (lower upper : Option α) :
    (mergeSection merge lower upper).bind field = (upper.bind field).or (lower.bind field) := by
  cases lower <;> cases upper <;> simp [mergeSection, hmerge]

theorem ConfigLayer.value?_merge (lower upper : ConfigLayer) (s : Setting) :
    (lower.merge upper).value? s = (upper.value? s).or (lower.value? s) := by
  cases s <;> exact bind_mergeSection (fun _ _ => rfl) _ _

@[simp] theorem ConfigLayer.value?_empty (s : Setting) : ({} : ConfigLayer).value? s = none := by
  cases s <;> rfl

/-- The last one of the layers that set a setting sets it in all of them together. -/
theorem ConfigLayer.value?_foldl_merge (layers : List ConfigLayer) (lower : ConfigLayer)
    (s : Setting) : (layers.foldl ConfigLayer.merge lower).value? s =
      (layers.filterMap (·.value? s)).getLast?.or (lower.value? s) := by
  induction layers generalizing lower with
  | nil => rfl
  | cons layer layers ih =>
      rw [List.foldl_cons, ih, value?_merge, ← Option.or_assoc]
      congr 1
      cases hvalue : layer.value? s with
      | none => simp only [List.filterMap_cons, hvalue, Option.or_none]
      | some v =>
          simp only [List.filterMap_cons, hvalue, List.getLast?_cons]
          cases (layers.filterMap (·.value? s)).getLast? <;> rfl

/-- A resolved layer has the values it had and the standard ones where it had none. -/
theorem ConfigLayer.value?_resolve (l : ConfigLayer) (s : Setting) :
    l.resolve.value? s = (l.value? s).or s.standard? := by
  obtain ⟨kube, cache, auth, logging⟩ := l
  -- Only the section of the setting matters, be it missing or there without the field.
  cases s
  case kubeconfig | context | preferInCluster =>
    obtain _ | ⟨⟨_⟩ | _, ⟨_⟩ | _, ⟨_⟩ | _⟩ := kube <;> rfl
  case coreCapacity | storageCapacity | customObjectsCapacity =>
    obtain _ | ⟨⟨_⟩ | _, ⟨_⟩ | _, ⟨_⟩ | _⟩ := cache <;> rfl
  case userHeader | userPrefix | disableAuth | gateMode =>
    obtain _ | ⟨⟨_⟩ | _, ⟨_⟩ | _, ⟨_⟩ | _, ⟨_⟩ | _⟩ := auth <;> rfl
  case logLevel | logFormat =>
    obtain _ | ⟨⟨_⟩ | _, ⟨_⟩ | _⟩ := logging <;> rfl

/-! ### Reading the environment -/

namespace Environment

variable {α : Type} {host : Host} {s : Setting}

def value? (host : Host) (s : Setting) : Except ConfigFault (Option s.Value) :=
  typed host s.variableName s.read

def fault? (host : Host) (s : Setting) : Option ConfigFault :=
  match value? host s with
  | .error fault => some fault
  | .ok _ => none

theorem value?_of_unset (h : host.nonEmpty? s.variableName = none) : value? host s = .ok none := by
  simp only [value?, typed, h]

/-- The attempt fails with the fault, or where there is none it gives what `P` holds of. -/
def EndsIn (fault : Option ConfigFault) (P : α → Prop) (x : Except ConfigFault α) : Prop :=
  match fault with
  | some fault => x = .error fault
  | none => ∃ a, x = .ok a ∧ P a

theorem endsIn_bind {later : List Setting} {P : α → Prop}
    {f : Option s.Value → Except ConfigFault α}
    (h : ∀ v, value? host s = .ok v → EndsIn (later.findSome? (fault? host)) P (f v)) :
    EndsIn ((s :: later).findSome? (fault? host)) P (value? host s >>= f) := by
  rw [List.findSome?_cons, fault?]
  cases hvalue : value? host s with
  | error fault => rfl
  | ok v => exact h v hvalue

theorem layer_eq : layer host = (do
    let prefer ← value? host .preferInCluster
    let core ← value? host .coreCapacity
    let storage ← value? host .storageCapacity
    let custom ← value? host .customObjectsCapacity
    let disable ← value? host .disableAuth
    let mode ← value? host .gateMode
    let format ← value? host .logFormat
    return {
      kube := some ⟨host.nonEmpty? Setting.kubeconfig.variableName,
        host.nonEmpty? Setting.context.variableName, prefer⟩
      cache := some ⟨core, storage, custom⟩
      auth := some ⟨host.nonEmpty? Setting.userHeader.variableName,
        host.nonEmpty? Setting.userPrefix.variableName, disable, mode⟩
      logging := some ⟨host.nonEmpty? Setting.logLevel.variableName, format⟩ }) := by
  simp only [layer, kubeLayer, cacheLayer, authLayer, loggingLayer, bind_assoc, pure_bind]
  rfl

theorem typed_ok (name : String) :
    typed host name (fun text => .ok text) = .ok (host.nonEmpty? name) := by
  unfold typed
  cases host.nonEmpty? name <;> rfl

/-- Loading fails as the first typed variable that has no value, and else sets what the variables
have. -/
theorem layer_run (host : Host) : EndsIn (Setting.typed.findSome? (fault? host))
    (fun layer => ∀ s, value? host s = .ok (layer.value? s)) (layer host) := by
  rw [layer_eq]
  refine endsIn_bind fun prefer hprefer => endsIn_bind fun core hcore =>
    endsIn_bind fun storage hstorage => endsIn_bind fun custom hcustom =>
    endsIn_bind fun disable hdisable => endsIn_bind fun mode hmode =>
    endsIn_bind fun format hformat => ⟨_, rfl, fun s => ?_⟩
  cases s
  case kubeconfig | context | userHeader | userPrefix | logLevel => exact typed_ok _
  all_goals assumption

end Environment

end ClusterAccess
