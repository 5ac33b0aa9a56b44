import ClusterAccess.CommandLine.Surroundings
import Std.Time.DateTime.Timestamp

/-!
The program. It looks at its variables and files, and hands them to a run. It brings no network
of its own, so its requests end like those to a server that nobody can connect to.
-/

namespace ClusterAccess.CommandLine

def faultOf (code : UInt32) : FileFault :=
  if code = 2 then .missing
  else if code = 20 then .notDirectory
  else if code = 21 then .isDirectory
  else if code = 36 then .nameTooLong
  else .notPermitted

abbrev FoundFiles := List (PathName × Except FileFault (List UInt8))

def readFile (path : PathName) : IO (Except FileFault (List UInt8)) := do
  match path.text? with
  | none => return .error .missing
  | some name =>
    try
      return .ok (← IO.FS.readBinFile name).toList
    catch
      | .noFileOrDirectory .. => return .error .missing
      | .inappropriateType _ code _ => return .error (faultOf code)
      | .invalidArgument _ code _ => return .error (faultOf code)
      | _ => return .error .notPermitted

def readSettings : IO (List (String × List UInt8)) := do
  let values ← variableNames.mapM fun name => return (name, ← IO.getEnv name)
  return values.filterMap fun (name, value) => value.map fun text => (name, text.toUTF8.toList)

def hostWith (home : PathName) (clock : Int) (settings : List (String × List UInt8))
    (files : FoundFiles) : Host :=
  { env := fun name => settings.lookup name
    file := fun path => (files.lookup path).getD (.error .missing)
    home, clock }

/-- Each round finds the files that those of the round before name. -/
def readSurroundings (rounds : Nat) (args : Arguments) (host : FoundFiles → Host)
    (files : FoundFiles) : IO FoundFiles :=
  match rounds with
  | 0 => return files
  | rounds + 1 => do
    let paths := (filesOf (host files) args).filter fun path => files.all (·.1 ≠ path)
    let found ← paths.mapM fun path => return (path, ← readFile path)
    readSurroundings rounds args host (files ++ found)

def unconnected : Transport (StateM Unit) := fun _ => return .error "client error (Connect)"

def observe (args : List String) : IO Host := do
  let settings ← readSettings
  let clock := (← Std.Time.Timestamp.now).toSecondsSinceUnixEpoch.val
  let home := PathName.ofText ((← IO.getEnv "HOME").getD "")
  let host := hostWith home clock settings
  match Arguments.read (configFile? (host [])) args with
  | .error _ => return host []
  | .ok read => return host (← readSurroundings 3 read host [])

end ClusterAccess.CommandLine

open ClusterAccess.CommandLine in
def main (args : List String) : IO UInt32 := do
  let (outcome, _) := (run (← observe args) unconnected args).run ()
  IO.print outcome.printed
  if let some text := outcome.error then IO.eprintln ("Error: " ++ text)
  return UInt32.ofNat outcome.exit
