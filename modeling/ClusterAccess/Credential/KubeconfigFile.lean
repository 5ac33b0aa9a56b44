import ClusterAccess.Credential.Kubeconfig
import ClusterAccess.Host
import ClusterAccess.Text.Blank
import ClusterAccess.Text.Utf16
import ClusterAccess.Yaml.Record

/-!
Kubeconfig files. A file is a YAML text of any number of documents, each of them a kubeconfig, and
a later one adds to those before it. The first bytes of a file may name its encoding.
-/

namespace ClusterAccess

namespace Kubeconfig

open Yaml

/-- A list of named extensions, about which nothing is remembered. -/
def extensions? : Yaml → Option Unit := fun v => do
  let _ ← v.list? fun item => do
    let fields ← item.fields?
    let _ ← fields.required? "name" text?
    fields.required? "extension" fun value => if value.isPlainData then some () else none
  return ()

def texts? : Yaml → Option (List String) := list? text?

def clusterOf? (v : Yaml) : Option ClusterEntry := do
  let fields ← v.fields?
  let _ ← fields.optional? "insecure-skip-tls-verify" flag?
  let _ ← fields.optional? "disable-compression" flag?
  let _ ← fields.optional? "extensions" extensions?
  return { server := ← fields.optional? "server" text?
           authorityFile := ← fields.optional? "certificate-authority" text?
           authorityData := ← fields.optional? "certificate-authority-data" text?
           proxy := ← fields.optional? "proxy-url" text?
           serverName := ← fields.optional? "tls-server-name" text? }

def providerOf? (v : Yaml) : Option AuthProvider := do
  let fields ← v.fields?
  return ⟨← fields.required? "name" text?, ← fields.orElse? "config" [] (table? text?)⟩

def interactiveMode? (v : Yaml) : Option Unit :=
  let isMode (name : String) : Bool := name ∈ ["Never", "IfAvailable", "Always"]
  match v with
  | str name => if isMode name then some () else none
  | tagged name value => if isMode name && value.untag.isNull then some () else none
  | _ => none

/-- The variables of a list of tables, each with a name and a value. Others are left out. -/
def variablesOf (tables : List (List (String × String))) : List (String × String) :=
  tables.filterMap fun table => do
    let table := table.reverse
    return (← table.lookup "name", ← table.lookup "value")

def commandOf? (v : Yaml) : Option AuthCommand := do
  let fields ← v.fields?
  let _ ← fields.optional? "apiVersion" text?
  let _ ← fields.optional? "interactiveMode" interactiveMode?
  return { command := ← fields.optional? "command" text?
           arguments := (← fields.optional? "args" texts?).getD []
           environment := variablesOf ((← fields.optional? "env" (list? (table? text?))).getD [])
           needsCluster := ← fields.orElse? "provideClusterInfo" false flag? }

def userOf? (v : Yaml) : Option UserEntry := do
  let fields ← v.fields?
  return { username := ← fields.optional? "username" text?
           password := ← fields.optional? "password" text?
           token := ← fields.optional? "token" text?
           tokenFile := ← fields.optional? "tokenFile" text?
           certificateFile := ← fields.optional? "client-certificate" text?
           certificateData := ← fields.optional? "client-certificate-data" text?
           keyFile := ← fields.optional? "client-key" text?
           keyData := ← fields.optional? "client-key-data" text?
           impersonate := ← fields.optional? "as" text?
           groups := (← fields.optional? "as-groups" texts?).getD []
           provider := ← fields.optional? "auth-provider" providerOf?
           command := ← fields.optional? "exec" commandOf? }

def contextOf? (v : Yaml) : Option ContextEntry := do
  let fields ← v.fields?
  let _ ← fields.optional? "extensions" extensions?
  return { cluster := ← fields.required? "cluster" text?
           user := ← fields.optional? "user" text?
           ns := ← fields.optional? "namespace" text? }

/-- The named entries of a list, of which some may say nothing. -/
def entriesOf? {α : Type} (fields : Fields) (list key : String) (read : Yaml → Option α) :
    Option (List (String × Option α)) := do
  let entries ← fields.optional? list (list? fun item => do
    let entry ← item.fields?
    return (← entry.required? "name" text?, ← entry.optional? key read))
  return entries.getD []

def preferences? (v : Yaml) : Option Unit := do
  let fields ← v.fields?
  let _ ← fields.optional? "colors" flag?
  let _ ← fields.optional? "extensions" extensions?
  return ()

/-- What a document says. Null stands for an empty document. -/
def ofYaml? (v : Yaml) : Option Kubeconfig := do
  let fields ← v.fields?
  let _ ← fields.optional? "preferences" preferences?
  let _ ← fields.optional? "extensions" extensions?
  return { kind := ← fields.optional? "kind" text?
           apiVersion := ← fields.optional? "apiVersion" text?
           current := ← fields.optional? "current-context" text?
           clusters := ← entriesOf? fields "clusters" "cluster" clusterOf?
           users := ← entriesOf? fields "users" "user" userOf?
           contexts := ← entriesOf? fields "contexts" "context" contextOf? }

def ofDocument : Option Yaml → Except KubeconfigFault Kubeconfig
  | none => .error .malformed
  | some v => match ofYaml? v with
    | some config => .ok config
    | none => .error .wrongStructure

/-- Files that an entry names are seen from the directory of the file it is in, unless that makes no
text. -/
def atDirectory (directory : PathName) (config : Kubeconfig) : Kubeconfig :=
  let absolute := Option.map fun file : String =>
    (directory.resolve (.ofText file)).text?.getD file
  { config with
    clusters := config.clusters.map fun (name, entry) =>
      (name, entry.map fun e => { e with authorityFile := absolute e.authorityFile })
    users := config.users.map fun (name, entry) =>
      (name, entry.map fun e =>
        { e with tokenFile := absolute e.tokenFile
                 certificateFile := absolute e.certificateFile
                 keyFile := absolute e.keyFile }) }

/-- The text of the bytes at a path, in the encoding that the first bytes name. In two encodings a
unit has two bytes. -/
def decode (path : PathName) (bytes : List UInt8) : Except KubeconfigFault (List Char) :=
  let read (encoding : String) (text : Option (List Char)) :
      Except KubeconfigFault (List Char) :=
    match text with
    | some cs => .ok cs
    | none => .error (.unreadable path ("Invalid " ++ encoding))
  let readUnits (encoding : String) (order : Text.Utf16.Order) (bytes : List UInt8) :
      Except KubeconfigFault (List Char) :=
    if bytes.length % 2 ≠ 0 then .error .halfUnit
    else read encoding (Text.Utf16.decode? order bytes)
  match bytes with
  | 0xFF :: 0xFE :: rest => readUnits "UTF-16LE" .littleEndian rest
  | 0xFE :: 0xFF :: rest => readUnits "UTF-16BE" .bigEndian rest
  | 0xEF :: 0xBB :: 0xBF :: rest => read "UTF-8 BOM" (Text.Utf8.decode rest).toOption
  | _ => read "UTF-8" (Text.Utf8.decode bytes).toOption

def readFile (host : Host) (path : PathName) : Except KubeconfigFault Kubeconfig := do
  let bytes ← (host.readBytes path).mapError fun f => .unreadable path f.message
  let cs ← decode path bytes
  let parts ← (Yaml.values cs).mapM ofDocument
  let parts := match path.directory? with
    | some directory => parts.map (·.atDirectory directory)
    | none => parts
  match parts with
  | [] => return {}
  | first :: rest => rest.foldlM merge first

/-- The names between the colons of a list of files, without those that are empty. -/
def splitPaths (bytes : List UInt8) : List PathName :=
  ((bytes.splitOn ':'.toUInt8).filter (· ≠ [])).map (⟨·⟩)

def standardPaths (host : Host) : List PathName :=
  match splitPaths ((host.env "KUBECONFIG").getD []) with
  | [] => [host.home.resolve (.ofText ".kube/config")]
  | paths => paths

def readStandard (host : Host) : Except KubeconfigFault Kubeconfig :=
  (standardPaths host).foldlM (fun merged path => do merged.merge (← readFile host path)) {}

end Kubeconfig

end ClusterAccess
