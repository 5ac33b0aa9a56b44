/-!
Reading UTF-16. Two units that are surrogates make one character; any other surrogate makes none.
In bytes, either one of the two bytes of a unit comes first.
-/

namespace ClusterAccess.Text.Utf16

inductive Order where
  | bigEndian
  | littleEndian
  deriving DecidableEq

def unit (order : Order) (a b : UInt8) : Nat :=
  match order with
  | .bigEndian => a.toNat * 256 + b.toNat
  | .littleEndian => b.toNat * 256 + a.toNat

def isHigh (unit : Nat) : Bool := 0xD800 ≤ unit && unit ≤ 0xDBFF

def isLow (unit : Nat) : Bool := 0xDC00 ≤ unit && unit ≤ 0xDFFF

/-- The characters before `after` whose units are given, last unit first. -/
def ofUnits? (after : List Char) : List Nat → Option (List Char)
  | [] => some after
  | [u] => if isHigh u || isLow u then none else some (Char.ofNat u :: after)
  | u :: v :: rest =>
    if isLow u && isHigh v then
      ofUnits? (Char.ofNat (0x10000 + (v - 0xD800) * 0x400 + (u - 0xDC00)) :: after) rest
    else if isHigh u || isLow u then none
    else ofUnits? (Char.ofNat u :: after) (v :: rest)

/-- The units of bytes, last unit first, after those that have been read. -/
def units? (order : Order) (done : List Nat) : List UInt8 → Option (List Nat)
  | [] => some done
  | [_] => none
  | a :: b :: rest => units? order (unit order a b :: done) rest

def decode? (order : Order) (bytes : List UInt8) : Option (List Char) :=
  (units? order [] bytes).bind (ofUnits? [])

end ClusterAccess.Text.Utf16
