import ClusterAccess.CommandLine.Program

/-!
What a run looks at around it: the variables by name, and the files, as far as those that are
known already tell which they are.
-/

namespace ClusterAccess.CommandLine

def variableNames : List String :=
  [configVariable, "CRUD_BACKEND_KUBECONFIG", "CRUD_BACKEND_KUBE_CONTEXT",
    "CRUD_BACKEND_KUBE_PREFER_IN_CLUSTER", "CRUD_BACKEND_CACHE_CORE_CAPACITY",
    "CRUD_BACKEND_CACHE_STORAGE_CAPACITY", "CRUD_BACKEND_CACHE_CUSTOM_OBJECTS_CAPACITY",
    "CRUD_BACKEND_USERID_HEADER", "CRUD_BACKEND_USERID_PREFIX", "CRUD_BACKEND_DISABLE_AUTH",
    "CRUD_BACKEND_AUTH_GATE_MODE", "CRUD_BACKEND_LOG_LEVEL", "CRUD_BACKEND_LOG_FORMAT",
    "KUBECONFIG", "KUBERNETES_SERVICE_HOST", "KUBERNETES_SERVICE_PORT", rootsFileVariable,
    rootsDirectoryVariable] ++
    AmbientCredential.proxyVariables

def accountFiles : List PathName :=
  ["namespace", "ca.crt", "token"].map AmbientCredential.accountFile

def filesOfUser (user : UserEntry) : List String :=
  [user.tokenFile, user.certificateFile, user.keyFile, user.command.bind (·.command),
    user.provider.bind (·.setting? "cmd-path")].filterMap id

def namedFiles (config : Kubeconfig) : List PathName :=
  let ofClusters := config.clusters.filterMap fun entry => entry.2.bind (·.authorityFile)
  let ofUsers := (config.users.filterMap (·.2)).flatMap filesOfUser
  (ofClusters ++ ofUsers).map .ofText

def kubeconfigPaths (host : Host) (config : Config) : List PathName :=
  match config.kube.kubeconfig with
  | some path => [.ofText path]
  | none => Kubeconfig.standardPaths host

/-- The files to look at, as far as it is known. -/
def filesOf (host : Host) (args : Arguments) : List PathName :=
  let configPath := args.config.getD Config.systemFile
  match args.loadConfig host with
  | .error _ => [configPath]
  | .ok config =>
    let paths := kubeconfigPaths host config
    let named := paths.flatMap fun path => match Kubeconfig.readFile host path with
      | .ok kubeconfig => namedFiles kubeconfig
      | .error _ => []
    configPath :: paths ++ accountFiles ++ (rootsFile? host).toList ++ named

end ClusterAccess.CommandLine
