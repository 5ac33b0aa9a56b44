import ClusterAccess.Resource.Reference

/-!
The question whether somebody may apply a verb to a resource.
-/

namespace ClusterAccess

structure AccessCheck where
  verb : String
  group : String
  version : String
  resource : String
  subresource : Option String := none
  ns : Option String := none
  name : Option String := none
  deriving DecidableEq

namespace AccessCheck

/-- The verb on all objects of a kind, in one namespace or in the whole cluster. -/
def ofKind (verb : String) (kind : ResourceKind) (ns : Option String) : AccessCheck :=
  { verb, group := kind.group, version := kind.version, resource := kind.plural, ns }

def ofTarget (verb : String) (target : ResourceRef) : AccessCheck :=
  { ofKind verb target.kind target.ns with name := target.name }

def withSubresource (c : AccessCheck) (subresource : String) : AccessCheck :=
  { c with subresource := some subresource }

def resourceLabel (c : AccessCheck) : String :=
  ResourceKind.qualified c.resource c.group ++
    (match c.subresource with | some s => "/" ++ s | none => "")

def display (c : AccessCheck) : String :=
  c.verb ++ " " ++ c.resourceLabel ++ (match c.ns with | some ns => " in " ++ ns | none => "")

end AccessCheck

end ClusterAccess
