import ClusterAccess.PathName

/-!
What a process finds around it: its environment variables, its files, its home directory and the
time. A variable counts as unset where a text is wanted and its value is none.
-/

namespace ClusterAccess

inductive FileFault where
  | missing
  | isDirectory
  | notDirectory
  | nameTooLong
  | nullInName
  | notPermitted
  | notText
  deriving DecidableEq

def FileFault.message : FileFault → String
  | missing => "No such file or directory (os error 2)"
  | isDirectory => "Is a directory (os error 21)"
  | notDirectory => "Not a directory (os error 20)"
  | nameTooLong => "File name too long (os error 36)"
  | nullInName => "file name contained an unexpected NUL byte"
  | notPermitted => "Permission denied (os error 13)"
  | notText => "stream did not contain valid UTF-8"

/-- Whether there is nothing of that name at all. -/
def FileFault.isAbsence : FileFault → Bool
  | missing | notDirectory | nameTooLong | nullInName => true
  | isDirectory | notPermitted | notText => false

structure Host where
  env : String → Option (List UInt8)
  file : PathName → Except FileFault (List UInt8)
  home : PathName
  /-- The time in seconds since the first moment of 1970. -/
  clock : Int

namespace Host

def text? (host : Host) (name : String) : Option String :=
  (host.env name).bind Text.Utf8.text?

/-- The value of a variable that is set to a text which is not empty. -/
def nonEmpty? (host : Host) (name : String) : Option String :=
  (host.text? name).filter (· ≠ "")

/-- The bytes of a file. No file has a name with a null byte. -/
def readBytes (host : Host) (path : PathName) : Except FileFault (List UInt8) :=
  if path.bytes.contains 0 then .error .nullInName else host.file path

def readText (host : Host) (path : PathName) : Except FileFault (List Char) := do
  (Text.Utf8.decode (← host.readBytes path)).mapError fun _ => .notText

end Host

end ClusterAccess
