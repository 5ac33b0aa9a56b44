import ClusterAccess.Text.Escape

/-!
Names of files. A name is bytes of which slashes separate the parts; it need not be a text.
-/

namespace ClusterAccess

structure PathName where
  bytes : List UInt8
  deriving DecidableEq

namespace PathName

def ofText (s : String) : PathName := ⟨Text.Utf8.encode s.toList⟩

def text? (p : PathName) : Option String := Text.Utf8.text? p.bytes

def display (p : PathName) : String := Text.Utf8.repaired p.bytes

def inspect (p : PathName) : String := Text.quoteBytes p.bytes

def slash : UInt8 := '/'.toUInt8

def dot : UInt8 := '.'.toUInt8

def isAbsolute (p : PathName) : Bool := p.bytes.head? = some slash

/-- Leaves out what ends a name without being a part of it: slashes, and dots that stand for the
directory itself. The bytes are in reverse order. A relative name may begin with such a dot. -/
def dropEnding (relative : Bool) : List UInt8 → List UInt8
  | [] => []
  | b :: rest =>
    if b = slash then dropEnding relative rest
    else if b = dot && (rest.head? = some slash || (rest = [] && !relative)) then
      dropEnding relative rest
    else b :: rest

/-- The directory that a file is in, unless the name has no part. -/
def directory? (p : PathName) : Option PathName :=
  let (root, body) := if p.isAbsolute then ([slash], p.bytes.tail) else ([], p.bytes)
  match dropEnding (root = []) body.reverse with
  | [] => none
  | ending =>
    some ⟨root ++ (dropEnding (root = []) (ending.dropWhile (· ≠ slash))).reverse⟩

def resolve (directory p : PathName) : PathName :=
  if p.isAbsolute || directory.bytes = [] then p
  else if directory.bytes.getLast? = some slash then ⟨directory.bytes ++ p.bytes⟩
  else ⟨directory.bytes ++ slash :: p.bytes⟩

end PathName

end ClusterAccess
