import ClusterAccess.Json.Basic
import ClusterAccess.Resource.Reference

/-!
What can be done to a reference, with the options of each operation.
-/

namespace ClusterAccess

structure Selectors where
  labels : Option String := none
  fields : Option String := none
  deriving DecidableEq

def Selectors.involvedObject (kind name : String) : Selectors :=
  { fields := some ("involvedObject.kind=" ++ kind ++ ",involvedObject.name=" ++ name) }

inductive Propagation where
  | foreground
  | background
  | orphan
  deriving DecidableEq

namespace Propagation

def text : Propagation → String
  | foreground => "Foreground"
  | background => "Background"
  | orphan => "Orphan"

def ofText? (s : String) : Option Propagation :=
  if s = "Foreground" then some foreground
  else if s = "Background" then some background
  else if s = "Orphan" then some orphan
  else none

def standard : Propagation := foreground

end Propagation

inductive PatchStrategy where
  | merge
  | strategicMerge
  deriving DecidableEq

def PatchStrategy.text : PatchStrategy → String
  | merge => "Merge"
  | strategicMerge => "StrategicMerge"

inductive Operation where
  | get
  | list (selectors : Selectors)
  | create (body : Json) (dryRun : Bool)
  | delete (propagation : Propagation)
  | patch (body : Json) (strategy : PatchStrategy)
  | logs (container : Option String)

def Operation.verb : Operation → String
  | get => "get"
  | list _ => "list"
  | create .. => "create"
  | delete _ => "delete"
  | patch .. => "patch"
  | logs _ => "logs"

structure ClusterCall where
  target : ResourceRef
  operation : Operation

end ClusterAccess
