import ClusterAccess.CommandLine.Arguments
import ClusterAccess.Json.Writer
import ClusterAccess.Request.HeaderIdentity
import ClusterAccess.Service

/-!
A run of the program: it reads its arguments and its configuration, makes one request, and prints
what came back.
-/

namespace ClusterAccess.CommandLine

inductive RunFault where
  | config (cause : ConfigFault)
  | access (cause : Fault)
  | broken

/-- What a fault leaves behind. A run that is broken off says nothing more. -/
def RunFault.outcome : RunFault → Outcome
  | config cause => { exit := 1, error := some cause.inspect }
  | access cause => { exit := 1, error := some cause.inspect }
  | broken => { exit := 101 }

namespace Command

variable {κ : Type}

def kindOf (group version plural : String) (namespaced : Bool) : ResourceKind :=
  ⟨group, version, plural, plural, namespaced⟩

def accessor? : Command → Option Accessor
  | version | canI .. => none
  | namespaces => some (.listNamespaces .caller)
  | pods ns selector => some (.listPods ns selector .caller)
  | logs ns pod container => some (.podLogs ns pod container .caller)
  | pvcs ns => some (.listPvcs ns)
  | pvcEvents ns name => some (.listPvcEvents ns name)
  | notebooks ns => some (.listNotebooks ns)
  | notebookEvents ns name => some (.listNotebookEvents ns name)
  | podDefaults ns => some (.listPodDefaults ns)
  | storageClasses => some .listStorageClasses
  | custom ns group served plural =>
    some (.listCustomResources (kindOf group served plural true) (some ns))

def report (answer : Json) : Command → Json
  | logs ns pod _ => .ofFields [("pod", .str pod), ("namespace", .str ns), ("logs", answer)]
  | storageClasses =>
    .ofFields [("storageClasses", answer), ("default", (pickDefaultClass answer).getD .null)]
  | _ => answer

def answerText (caller : Identity) (verb : String) (kind : ResourceKind) (ns : Option String)
    (allowed : Bool) : Json :=
  .ofFields [("identity", .str caller.display), ("verb", .str verb),
    ("resource", .str kind.display), ("namespace", .ofText? ns), ("allowed", .bool allowed)]

def script (command : Command) (gate : AuthorizationGate) (ctx : RequestContext) :
    Script κ (Except Fault Json) :=
  match command with
  | canI verb resource ns group served => do
    let kind := kindOf group served resource ns.isSome
    let allowed ← ClusterAccess.canI gate ctx verb kind ns
    return allowed.map (answerText ctx.identity verb kind ns)
  | other => match other.accessor? with
    | some accessor => do
      let answer ← accessor.script gate ctx
      return answer.map (report · other)
    | none => return .ok (.ofFields [("version", .str Version.number)])

end Command

def Arguments.loadConfig (host : Host) (args : Arguments) : Except ConfigFault Config :=
  match args.config with
  | some path => Config.ofFile host path
  | none => Config.ofSystem host

def Arguments.prepare (host : Host) (args : Arguments) :
    Except RunFault (Service × RequestContext) := do
  let config ← (args.loadConfig host).mapError .config
  let access {α : Type} (step : Except Fault α) : Except RunFault α := step.mapError .access
  let credential ← (AmbientCredential.find host config.kube.credentialOptions).mapError fun f =>
    if f.isAbrupt then .broken else .access f.toFault
  if credential.isBroken host then throw .broken
  let service ← access (Service.assemble host config credential)
  let ctx ← access (RequestContext.forUser config.auth args.actAs ⟨0⟩)
  return (service, ctx)

def Outcome.ofResult : Except Fault Json → Outcome
  | .ok v => { exit := 0, printed := v.pretty ++ "\n" }
  | .error f => RunFault.outcome (.access f)

def configVariable : String := "CRUD_BACKEND_CONFIG"

def configFile? (host : Host) : Option PathName := (host.env configVariable).map (⟨·⟩)

variable {σ : Type}

def runCommand (host : Host) (send : Transport (StateM σ)) (args : Arguments) :
    StateM σ Outcome := fun s =>
  match args.prepare host with
  | .error fault => (fault.outcome, s)
  | .ok (service, ctx) =>
    let run := (args.command.script service.gate ctx).run
      (service.collaborators send fun _ _ => false) ⟨service.registry, s⟩
    (.ofResult run.result, run.world.surroundings)

/-- A run of the program with these arguments. Nobody cancels it. -/
def run (host : Host) (send : Transport (StateM σ)) (args : List String) : StateM σ Outcome :=
  match Arguments.read (configFile? host) args with
  | .error stop => pure (.ofStop stop)
  | .ok read =>
    if read.command = .version then pure { exit := 0, printed := Version.text ++ "\n" }
    else runCommand host send read

end ClusterAccess.CommandLine
