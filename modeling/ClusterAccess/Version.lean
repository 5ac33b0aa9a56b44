/-!
What the program says about itself: its name and its version, and how a run ends whose arguments
ask for no more than that, or are wrong.
-/

namespace ClusterAccess

namespace Version

def program : String := "crud-backend"

def number : String := "0.1.0"

def platform : String := "linux-x86_64"

def line : String := program ++ " " ++ number

def text : String :=
  program ++ " version: " ++ number ++ "\nPlatform:             " ++ platform

end Version

namespace CommandLine

/-- Why nothing is to be done: the arguments are wrong, or ask only about the program itself. -/
inductive Stop where
  | usage
  | help
  | version
  deriving DecidableEq

/-- What a run leaves behind: its exit code, what it printed, and the error it ended with. -/
structure Outcome where
  exit : Nat
  printed : String := ""
  error : Option String := none
  deriving DecidableEq

def Outcome.ofStop : Stop → Outcome
  | .usage => { exit := 2 }
  | .help => { exit := 0, printed := "Usage: " ++ Version.program ++ " [OPTIONS] <COMMAND>\n" }
  | .version => { exit := 0, printed := Version.line ++ "\n" }

end CommandLine

end ClusterAccess
