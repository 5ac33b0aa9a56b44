import ClusterAccess.Access.Gate

/-!
A layer of configuration: any of the twelve settings, in four sections. Layers are laid over each
other setting by setting.
-/

namespace ClusterAccess

inductive LogFormat where
  | text
  | json
  deriving DecidableEq

namespace LogFormat

def name : LogFormat → String
  | text => "text"
  | json => "json"

/-- The format that the text names exactly. -/
def ofName? (s : String) : Option LogFormat :=
  if s = "text" then some text else if s = "json" then some json else none

/-- The format that the text names in any letter case. -/
def read (s : String) : Except String LogFormat :=
  match ofName? (Text.lowerAscii s) with
  | some format => .ok format
  | none => .error ("expected 'text' or 'json', got '" ++ Text.lowerAscii s ++ "'")

end LogFormat

def GateMode.readSetting (s : String) : Except String GateMode :=
  match GateMode.ofText? s with
  | some mode => .ok mode
  | none => .error ("expected 'selective' or 'strict', got '" ++ Text.lowerAscii s ++ "'")

def GateMode.ofName? (s : String) : Option GateMode :=
  if s = "selective" then some selective else if s = "strict" then some strict else none

structure KubeLayer where
  kubeconfig : Option String := none
  context : Option String := none
  preferInCluster : Option Bool := none
  deriving DecidableEq

structure CacheLayer where
  core : Option Nat := none
  storage : Option Nat := none
  customObjects : Option Nat := none
  deriving DecidableEq

structure AuthLayer where
  userHeader : Option String := none
  userPrefix : Option String := none
  disableAuth : Option Bool := none
  gateMode : Option GateMode := none
  deriving DecidableEq

structure LoggingLayer where
  level : Option String := none
  format : Option LogFormat := none
  deriving DecidableEq

structure ConfigLayer where
  kube : Option KubeLayer := none
  cache : Option CacheLayer := none
  auth : Option AuthLayer := none
  logging : Option LoggingLayer := none
  deriving DecidableEq

def overlay (lower upper : Option α) : Option α := upper.or lower

def KubeLayer.merge (lower upper : KubeLayer) : KubeLayer :=
  ⟨overlay lower.kubeconfig upper.kubeconfig, overlay lower.context upper.context,
    overlay lower.preferInCluster upper.preferInCluster⟩

def CacheLayer.merge (lower upper : CacheLayer) : CacheLayer :=
  ⟨overlay lower.core upper.core, overlay lower.storage upper.storage,
    overlay lower.customObjects upper.customObjects⟩

def AuthLayer.merge (lower upper : AuthLayer) : AuthLayer :=
  ⟨overlay lower.userHeader upper.userHeader, overlay lower.userPrefix upper.userPrefix,
    overlay lower.disableAuth upper.disableAuth, overlay lower.gateMode upper.gateMode⟩

def LoggingLayer.merge (lower upper : LoggingLayer) : LoggingLayer :=
  ⟨overlay lower.level upper.level, overlay lower.format upper.format⟩

/-- Two sections laid over each other, or the only one there is. -/
def mergeSection (merge : α → α → α) : Option α → Option α → Option α
  | some lower, some upper => some (merge lower upper)
  | none, some upper => some upper
  | lower, none => lower

def ConfigLayer.merge (lower upper : ConfigLayer) : ConfigLayer :=
  ⟨mergeSection .merge lower.kube upper.kube, mergeSection .merge lower.cache upper.cache,
    mergeSection .merge lower.auth upper.auth, mergeSection .merge lower.logging upper.logging⟩

end ClusterAccess
