import ClusterAccess.PathName
import ClusterAccess.Version

/-!
The arguments of the command line: options, the name of a command, and what belongs to that
command. Options that concern the whole program may stand before the command and after it; where
one stands on both sides, the value after the command counts.
-/

namespace ClusterAccess.CommandLine

inductive Command where
  | version
  | namespaces
  | pods (ns : String) (selector : Option String)
  | logs (ns pod : String) (container : Option String)
  | pvcs (ns : String)
  | pvcEvents (ns name : String)
  | notebooks (ns : String)
  | notebookEvents (ns name : String)
  | podDefaults (ns : String)
  | storageClasses
  | custom (ns group version plural : String)
  | canI (verb resource : String) (ns : Option String) (group version : String)
  deriving DecidableEq

structure Arguments where
  config : Option PathName := none
  actAs : Option String := none
  command : Command
  deriving DecidableEq

inductive Key where
  | config
  | actAs
  | ns
  | selector
  | container
  | group
  | version
  | plural
  deriving DecidableEq

namespace Key

def long : Key → String
  | config => "config"
  | actAs => "as"
  | ns => "namespace"
  | selector => "selector"
  | container => "container"
  | group => "group"
  | version => "version"
  | plural => "plural"

def short : Key → Option Char
  | ns => some 'n'
  | selector => some 'l'
  | container => some 'c'
  | _ => none

end Key

/-- What may be given before the command or after its name. -/
structure Level where
  keys : List Key
  places : Nat
  versionFlag : Bool := false

/-- What has been read on one level, newest first. An option that is not attached to its value is
pending until the next option or place; only then its value is looked at. -/
structure Reading where
  values : List (Key × String) := []
  positionals : List String := []
  pending : Option (Key × Option String) := none
  escaped : Bool := false
  deriving DecidableEq

namespace Reading

def value? (r : Reading) (key : Key) : Option String := r.values.lookup key

/-- Gives an option its value. No option has two, and no file has an empty name. -/
def give (r : Reading) (key : Key) (value : String) : Except Stop Reading :=
  if (r.value? key).isSome || (key = .config && value = "") then .error .usage
  else .ok { r with values := (key, value) :: r.values }

def awaited? (r : Reading) : Option Key :=
  match r.pending with
  | some (key, none) => some key
  | _ => none

/-- Takes in the option that is pending, which must have its value by now. -/
def settle (r : Reading) : Except Stop Reading :=
  match r.pending with
  | none => .ok r
  | some (_, none) => .error .usage
  | some (key, some value) => { r with pending := none }.give key value

end Reading

namespace Level

def place (level : Level) (r : Reading) (arg : String) : Except Stop Reading := do
  let r ← r.settle
  if r.positionals.length < level.places then
    return { r with positionals := arg :: r.positionals }
  else throw .usage

def option (r : Reading) (key : Key) (value : Option (List Char)) : Except Stop Reading := do
  let r ← r.settle
  match value with
  | none => return { r with pending := some (key, none) }
  | some text => r.give key (String.ofList text)

def stop (r : Reading) (reason : Stop) : Except Stop Reading := do
  let _ ← r.settle
  throw reason

def long (level : Level) (r : Reading) (cs : List Char) : Except Stop Reading :=
  let name := String.ofList (cs.takeWhile (· ≠ '='))
  let value := (cs.dropWhile (· ≠ '=')).tail?
  if name = "help" then stop r (if value.isNone then .help else .usage)
  else if name = "version" ∧ level.versionFlag then
    stop r (if value.isNone then .version else .usage)
  else match level.keys.find? (·.long = name) with
    | none => .error .usage
    | some key => option r key value

def short (level : Level) (r : Reading) (letter : Char) (rest : List Char) : Except Stop Reading :=
  if letter = 'h' then stop r .help
  else if letter = 'V' ∧ level.versionFlag then stop r .version
  else match level.keys.find? (·.short = some letter) with
    | none => .error .usage
    | some key => option r key (match rest with
      | [] => none
      | '=' :: text => some text
      | text => some text)

/-- One argument. The value of an option may not look like an option itself unless it is attached
to it. After two hyphens alone nothing is an option. -/
def step (level : Level) (r : Reading) (arg : String) : Except Stop Reading :=
  if r.escaped then level.place r arg
  else match r.awaited?, arg.toList with
    | none, ['-', '-'] => .ok { r with escaped := true }
    | none, '-' :: '-' :: cs => level.long r cs
    | none, '-' :: letter :: rest => level.short r letter rest
    | none, _ => level.place r arg
    | some _, '-' :: _ :: _ => .error .usage
    | some key, _ => .ok { r with pending := some (key, some arg) }

end Level

def globalKeys : List Key := [.config, .actAs]

def outerLevel : Level := { keys := globalKeys, places := 0, versionFlag := true }

def innerLevel? (name : String) : Option Level :=
  let level (keys : List Key) (places : Nat) : Option Level :=
    some { keys := globalKeys ++ keys, places }
  match name with
  | "version" | "namespaces" | "storage-classes" => level [] 0
  | "pods" => level [.ns, .selector] 0
  | "logs" => level [.ns, .container] 1
  | "pvcs" | "notebooks" | "poddefaults" => level [.ns] 0
  | "pvc-events" | "notebook-events" => level [.ns] 1
  | "custom" => level [.ns, .group, .version, .plural] 0
  | "can-i" => level [.ns, .group, .version] 2
  | _ => none

def commandOf? (name : String) (r : Reading) : Option Command := do
  match name, r.positionals.reverse with
  | "version", [] => return .version
  | "namespaces", [] => return .namespaces
  | "storage-classes", [] => return .storageClasses
  | "pods", [] => return .pods (← r.value? .ns) (r.value? .selector)
  | "logs", [pod] => return .logs (← r.value? .ns) pod (r.value? .container)
  | "pvcs", [] => return .pvcs (← r.value? .ns)
  | "pvc-events", [object] => return .pvcEvents (← r.value? .ns) object
  | "notebooks", [] => return .notebooks (← r.value? .ns)
  | "notebook-events", [object] => return .notebookEvents (← r.value? .ns) object
  | "poddefaults", [] => return .podDefaults (← r.value? .ns)
  | "custom", [] =>
    return .custom (← r.value? .ns) (← r.value? .group) (← r.value? .version) (← r.value? .plural)
  | "can-i", [verb, resource] =>
    return .canI verb resource (r.value? .ns) ((r.value? .group).getD "")
      ((r.value? .version).getD "v1")
  | _, _ => none

/-- What asking for help ends in. No command has commands of its own, so that at most one may be
named. -/
def helpStop : List String → Stop
  | [] => .help
  | [name] => if name = "help" ∨ (innerLevel? name).isSome then .help else .usage
  | _ => .usage

/-- What stands before the command, its name, and what stands after it. An option right before the
name may still be pending. -/
def readOuter (r : Reading) : List String → Except Stop (Reading × String × List String)
  | [] => .error .usage
  | arg :: rest => do
    let mayBeCommand := r.awaited?.isNone && !r.escaped
    if mayBeCommand && arg = "help" then .error (helpStop rest)
    else if mayBeCommand && (innerLevel? arg).isSome then .ok (r, arg, rest)
    else readOuter (← outerLevel.step r arg) rest

/-- The configuration file. A level that names none takes the one that stands in for it, which must
then have a name too. -/
def configOf (fallback : Option PathName) (outer inner : Reading) :
    Except Stop (Option PathName) :=
  match outer.value? .config, inner.value? .config with
  | some _, some path => .ok (some (.ofText path))
  | path, path' =>
    if fallback.any (·.bytes.isEmpty) then .error .usage
    else .ok (((path'.or path).map .ofText).or fallback)

/-- Reads arguments. `fallback` is the file that is meant where they name none. -/
def Arguments.read (fallback : Option PathName) (args : List String) : Except Stop Arguments := do
  let (outer, name, rest) ← readOuter {} args
  match innerLevel? name with
  | none => .error .usage
  | some level =>
    let inner ← (← rest.foldlM level.step {}).settle
    let outer ← outer.settle
    match commandOf? name inner with
    | none => .error .usage
    | some command =>
      return { config := ← configOf fallback outer inner
               actAs := (inner.value? .actAs).or (outer.value? .actAs), command }

end ClusterAccess.CommandLine
