/-!
Readers that take what they read off the front of a text, or fail.
-/

namespace ClusterAccess.Text

abbrev Scan := StateT (List Char) Option

namespace Scan

variable {α : Type}

def peek : Scan (Option Char) := fun s => some (s.head?, s)

def skip : Scan Unit := fun s => some ((), s.tail)

def literal (expected : List Char) : Scan Unit := fun s =>
  if expected.isPrefixOf s then some ((), s.drop expected.length) else none

def char (c : Char) : Scan Unit := literal [c]

/-- Takes the character if it is the next one, and says whether it was. -/
def char? (c : Char) : Scan Bool := fun s =>
  if s.head? = some c then some (true, s.tail) else some (false, s)

def run (p : Char → Bool) : Scan (List Char) := fun s => some (s.takeWhile p, s.dropWhile p)

def taken (read : Scan α) : Scan (List Char) := fun s => do
  let (_, rest) ← read s
  return (s.take (s.length - rest.length), rest)

/-- One to `most` items with a mark between each two. -/
def separated (item : Scan α) (mark : Char) (most : Nat) : Scan (List α) :=
  match most with
  | 0 => failure
  | most + 1 => do
    let first ← item
    if ← char? mark then return first :: (← separated item mark most) else return [first]

end Scan

end ClusterAccess.Text
