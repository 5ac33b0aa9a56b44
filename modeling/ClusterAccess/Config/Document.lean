import ClusterAccess.Config.Layer
import ClusterAccess.Json.Basic
import ClusterAccess.Toml.Table

/-!
Configuration from a structured document. A section is a table of its settings by name, or a list
that gives a value for each of them in their order. A table may hold names that are no settings,
but a document may hold no other section.
-/

namespace ClusterAccess

/-- How the values of a kind of document are to be read. -/
structure Reading (α : Type) where
  table? : α → Option (List (String × α))
  list? : α → Option (List α)
  isAbsent : α → Bool
  text? : α → Option String
  flag? : α → Option Bool
  integer? : α → Option Int
  choice? : α → Option String

namespace Reading

variable {α β : Type} (r : Reading α)

def present (v : Option α) : Option α := v.filter (!r.isAbsent ·)

def settings (names : List String) (v : α) : Option (List (Option α)) :=
  match r.table? v with
  | some fields => some (names.map fun name => r.present (fields.lookup name))
  | none => match r.list? v with
    | some items =>
      if items.length = names.length then some (items.map fun item => r.present (some item))
      else none
    | none => none

def optional (read : α → Option β) : Option α → Option (Option β)
  | none => some none
  | some v => (read v).map some

def capacity (v : α) : Option Nat :=
  (r.integer? v).bind fun n => if 0 ≤ n ∧ n < Int.pow 2 64 then some n.toNat else none

def kubeLayer (v : α) : Option KubeLayer := do
  match ← r.settings ["kubeconfig", "context", "prefer_in_cluster"] v with
  | [kubeconfig, context, prefer] =>
    return { kubeconfig := ← optional r.text? kubeconfig, context := ← optional r.text? context
             preferInCluster := ← optional r.flag? prefer }
  | _ => none

def cacheLayer (v : α) : Option CacheLayer := do
  match ← r.settings ["core_capacity", "storage_capacity", "custom_objects_capacity"] v with
  | [core, storage, custom] =>
    return { core := ← optional r.capacity core, storage := ← optional r.capacity storage
             customObjects := ← optional r.capacity custom }
  | _ => none

def gateMode (v : α) : Option GateMode := (r.choice? v).bind GateMode.ofName?

def logFormat (v : α) : Option LogFormat := (r.choice? v).bind LogFormat.ofName?

def authLayer (v : α) : Option AuthLayer := do
  match ← r.settings ["userid_header", "userid_prefix", "disable_auth", "gate_mode"] v with
  | [header, head, disable, mode] =>
    return { userHeader := ← optional r.text? header, userPrefix := ← optional r.text? head
             disableAuth := ← optional r.flag? disable, gateMode := ← optional r.gateMode mode }
  | _ => none

def loggingLayer (v : α) : Option LoggingLayer := do
  match ← r.settings ["level", "format"] v with
  | [level, format] =>
    return { level := ← optional r.text? level, format := ← optional r.logFormat format }
  | _ => none

def sections : List String := ["kube", "cache", "auth", "logging"]

def parts (v : α) : Option (List (Option α)) :=
  match r.table? v with
  | some fields =>
    if fields.all (·.1 ∈ sections) then
      some (sections.map fun name => r.present (fields.lookup name))
    else none
  | none => match r.list? v with
    | some items =>
      if items.length ≤ sections.length then
        some (items.map (fun item => r.present (some item)) ++
          List.replicate (sections.length - items.length) none)
      else none
    | none => none

def layer (v : α) : Option ConfigLayer := do
  match ← r.parts v with
  | [kube, cache, auth, logging] =>
    return { kube := ← optional r.kubeLayer kube, cache := ← optional r.cacheLayer cache
             auth := ← optional r.authLayer auth, logging := ← optional r.loggingLayer logging }
  | _ => none

end Reading

/-- JSON documents. A choice may also be the key of an object whose only value is null. -/
def Json.reading : Reading Json :=
  { table? := fun v => match v with | .obj fields => some fields | _ => none
    list? := Json.items?
    isAbsent := Json.isNull
    text? := Json.text?
    flag? := fun v => match v with | .bool b => some b | _ => none
    integer? := fun v => match v with | .int n => some n | _ => none
    choice? := fun v => match v with
      | .str s => some s
      | .obj [(key, .null)] => some key
      | _ => none }

/-- TOML documents. A choice may also be the key of a table whose only value is empty, and a date
stands for a section without settings. -/
def Toml.reading : Reading Toml :=
  { table? := fun v => match v with
      | .table entries => some entries
      | .dateTime _ => some []
      | _ => none
    list? := fun v => match v with | .array items => some items | _ => none
    isAbsent := fun _ => false
    text? := fun v => match v with | .text s => some s | _ => none
    flag? := fun v => match v with | .boolean b => some b | _ => none
    integer? := fun v => match v with | .integer n => some n | _ => none
    choice? := fun v => match v with
      | .text s => some s
      | .table [(key, .table [])] => some key
      | .table [(key, .array [])] => some key
      | _ => none }

end ClusterAccess
