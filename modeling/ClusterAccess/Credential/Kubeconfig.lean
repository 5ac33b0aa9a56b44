import ClusterAccess.PathName

/-!
What kubeconfigs say: named clusters, users and contexts, and the context that is used. Of several
kubeconfigs the first value of each kind and name counts.
-/

namespace ClusterAccess

structure ClusterEntry where
  server : Option String := none
  authorityFile : Option String := none
  authorityData : Option String := none
  proxy : Option String := none
  serverName : Option String := none

/-- Somebody else who tells what a user proves itself with. -/
structure AuthProvider where
  name : String
  settings : List (String × String)

namespace AuthProvider

/-- A setting. Of several values the last one counts. -/
def setting? (p : AuthProvider) (key : String) : Option String := p.settings.reverse.lookup key

end AuthProvider

structure AuthCommand where
  command : Option String
  arguments : List String
  environment : List (String × String)
  needsCluster : Bool

structure UserEntry where
  username : Option String := none
  password : Option String := none
  token : Option String := none
  tokenFile : Option String := none
  certificateFile : Option String := none
  certificateData : Option String := none
  keyFile : Option String := none
  keyData : Option String := none
  impersonate : Option String := none
  groups : List String := []
  provider : Option AuthProvider := none
  command : Option AuthCommand := none

structure ContextEntry where
  cluster : String
  user : Option String
  ns : Option String

structure Kubeconfig where
  kind : Option String := none
  apiVersion : Option String := none
  current : Option String := none
  clusters : List (String × Option ClusterEntry) := []
  users : List (String × Option UserEntry) := []
  contexts : List (String × Option ContextEntry) := []

inductive KubeconfigFault where
  | unreadable (path : PathName) (cause : String)
  | halfUnit
  | malformed
  | wrongStructure
  | kindMismatch
  | versionMismatch
  deriving DecidableEq

def KubeconfigFault.message : KubeconfigFault → String
  | unreadable path cause =>
    "failed to read kubeconfig from '" ++ path.inspect ++ "': " ++ cause
  | halfUnit => "index out of bounds: the len is 1 but the index is 1"
  | malformed => "failed to parse kubeconfig YAML: not a document"
  | wrongStructure => "the structure of the parsed kubeconfig is invalid: unexpected value"
  | kindMismatch => "kubeconfigs with mismatching kind cannot be merged"
  | versionMismatch => "kubeconfigs with mismatching api version cannot be merged"

namespace Kubeconfig

/-- The entries of two lists; of the second one only those with new names. -/
def addNew {α : Type} (first second : List (String × α)) : List (String × α) :=
  first ++ second.filter fun entry => first.all (·.1 ≠ entry.1)

def clash (a b : Option String) : Bool := a.isSome && b.isSome && a != b

def merge (first second : Kubeconfig) : Except KubeconfigFault Kubeconfig :=
  if clash first.kind second.kind then .error .kindMismatch
  else if clash first.apiVersion second.apiVersion then .error .versionMismatch
  else .ok
    { kind := first.kind.or second.kind
      apiVersion := first.apiVersion.or second.apiVersion
      current := first.current.or second.current
      clusters := addNew first.clusters second.clusters
      users := addNew first.users second.users
      contexts := addNew first.contexts second.contexts }

def entry? {α : Type} (name : String) (entries : List (String × Option α)) : Option α :=
  (entries.lookup name).join

end Kubeconfig

end ClusterAccess
