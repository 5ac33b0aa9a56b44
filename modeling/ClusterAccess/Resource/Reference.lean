import ClusterAccess.Resource.Kind
import ClusterAccess.Text.Blank
import ClusterAccess.Text.Escape
import ClusterAccess.Fault

/-!
References to one object or to a collection. The constructors accept a namespace exactly for
namespaced kinds, and only names that stay what they are in a path and in a selector.
-/

namespace ClusterAccess

inductive ReferenceFault where
  | takesNoNamespace (kind : ResourceKind)
  | namespaceRequired (kind : ResourceKind)
  | invalidNamespace (ns : String)
  | nameRequired (kind : ResourceKind)
  | invalidName (kind : ResourceKind) (name : String)
  deriving DecidableEq

namespace ReferenceFault

def message : ReferenceFault → String
  | takesNoNamespace kind => kind.display ++ " is cluster-scoped and takes no namespace"
  | namespaceRequired kind => "namespace is required for " ++ kind.display
  | invalidNamespace ns =>
    "invalid namespace '" ++ Text.escape ns ++ "': must be a DNS-1123 label"
  | nameRequired kind => "name is required to address a single " ++ kind.kind
  | invalidName kind name => "invalid " ++ kind.kind ++ " name '" ++ Text.escape name ++ "'"

def toFault (f : ReferenceFault) : Fault := .invalidRequest f.message

end ReferenceFault

structure ResourceRef where
  kind : ResourceKind
  ns : Option String := none
  name : Option String := none
  deriving DecidableEq

def isLabelChar (c : Char) : Bool := c.isLower || c.isDigit || c == '-'

/-- DNS-1123 labels: 1 to 63 label characters, the first and the last not a hyphen. -/
def isLabel (s : String) : Bool :=
  let cs := s.toList
  cs.length ≤ 63 && cs.all isLabelChar &&
    (cs.head?.any (· != '-')) && (cs.getLast?.any (· != '-'))

/-- A character that would end or change a path segment or a field selector. -/
def isUnsafeInName (c : Char) : Bool :=
  c == '/' || c == '%' || c == '?' || c == '#' || c == ',' || c == '=' || c == '\\' ||
    Text.isBlank c || Text.isControl c

/-- Texts that are not empty and mean the same as a name, a path segment and a selector value. -/
def isSafeName (s : String) : Bool :=
  s != "." && s != ".." && !s.toList.any isUnsafeInName

namespace ResourceRef

def namespaced (kind : ResourceKind) (ns : String) : Except ReferenceFault ResourceRef :=
  if !kind.namespaced then .error (.takesNoNamespace kind)
  else if ns = "" then .error (.namespaceRequired kind)
  else if isLabel ns then .ok ⟨kind, some ns, none⟩
  else .error (.invalidNamespace ns)

def cluster (kind : ResourceKind) : Except ReferenceFault ResourceRef :=
  if kind.namespaced then .error (.namespaceRequired kind) else .ok ⟨kind, none, none⟩

/-- The objects of a kind, in a namespace if the kind has them. -/
def within (kind : ResourceKind) (ns : Option String) : Except ReferenceFault ResourceRef :=
  if kind.namespaced then namespaced kind (ns.getD "")
  else match ns with
    | none => cluster kind
    | some _ => .error (.takesNoNamespace kind)

def named (r : ResourceRef) (name : String) : Except ReferenceFault ResourceRef :=
  if name = "" then .error (.nameRequired r.kind)
  else if isSafeName name then .ok { r with name := some name }
  else .error (.invalidName r.kind name)

def requireName (r : ResourceRef) : Except ReferenceFault String :=
  match r.name with
  | some name => .ok name
  | none => .error (.nameRequired r.kind)

def collectionPath (r : ResourceRef) : String :=
  match r.ns with
  | some ns => r.kind.basePath ++ "/namespaces/" ++ ns ++ "/" ++ r.kind.plural
  | none => r.kind.basePath ++ "/" ++ r.kind.plural

def display (r : ResourceRef) : String :=
  r.kind.display ++ (match r.ns with | some ns => " in " ++ ns | none => "") ++
    (match r.name with | some name => " (" ++ name ++ ")" | none => "")

end ResourceRef

end ClusterAccess
