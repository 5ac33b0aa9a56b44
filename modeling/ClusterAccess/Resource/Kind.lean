/-!
Kinds of objects on the control plane: the group and version that serve them, their two names,
and whether they live in namespaces.
-/

namespace ClusterAccess

structure ResourceKind where
  group : String
  version : String
  kind : String
  plural : String
  namespaced : Bool
  deriving DecidableEq

namespace ResourceKind

def namespaces : ResourceKind := ⟨"", "v1", "Namespace", "namespaces", false⟩
def pods : ResourceKind := ⟨"", "v1", "Pod", "pods", true⟩
def persistentVolumeClaims : ResourceKind :=
  ⟨"", "v1", "PersistentVolumeClaim", "persistentvolumeclaims", true⟩
def secrets : ResourceKind := ⟨"", "v1", "Secret", "secrets", true⟩
def events : ResourceKind := ⟨"", "v1", "Event", "events", true⟩
def storageClasses : ResourceKind :=
  ⟨"storage.k8s.io", "v1", "StorageClass", "storageclasses", false⟩
def notebooks : ResourceKind := ⟨"kubeflow.org", "v1beta1", "Notebook", "notebooks", true⟩
def podDefaults : ResourceKind := ⟨"kubeflow.org", "v1alpha1", "PodDefault", "poddefaults", true⟩
def accessReviews : ResourceKind :=
  ⟨"authorization.k8s.io", "v1", "SubjectAccessReview", "subjectaccessreviews", false⟩

/-- The version as objects of the kind name it, with the group unless that is the core group. -/
def apiVersion (k : ResourceKind) : String :=
  if k.group = "" then k.version else k.group ++ "/" ++ k.version

def qualified (plural group : String) : String :=
  if group = "" then plural else plural ++ "." ++ group

def display (k : ResourceKind) : String := qualified k.plural k.group

/-- The path below which the control plane serves the kind's version. -/
def basePath (k : ResourceKind) : String :=
  if k.group = "" then "/api/" ++ k.version else "/apis/" ++ k.group ++ "/" ++ k.version

end ResourceKind

end ClusterAccess
