/-!
The base 64 code with its standard alphabet and padding. Reading accepts exactly what writing
gives; otherwise the first fault from the left is told, except that a character outside the alphabet
that stands alone at the end comes before all others. Lines of symbols are read more leniently.
-/

namespace ClusterAccess.Text

inductive Base64Fault where
  | symbol (byte : UInt8) (offset : Nat)
  | lastSymbol (byte : UInt8) (offset : Nat)
  | length (size : Nat)
  | padding
  deriving DecidableEq

def Base64Fault.message : Base64Fault → String
  | symbol byte offset =>
    "Invalid symbol " ++ toString byte.toNat ++ ", offset " ++ toString offset ++ "."
  | lastSymbol byte offset =>
    "Invalid last symbol " ++ toString byte.toNat ++ ", offset " ++ toString offset ++ "."
  | length size => "Invalid input length: " ++ toString size
  | padding => "Invalid padding"

namespace Base64

def alphabet : List Char :=
  "ABCDEFGHIJKLMNOPQRSTUVWXYZabcdefghijklmnopqrstuvwxyz0123456789+/".toList

def digit (n : Nat) : Char := alphabet.getD n '='

def encode : List UInt8 → List Char
  | a :: b :: c :: rest =>
    let n := (a.toNat * 256 + b.toNat) * 256 + c.toNat
    digit (n / 262144) :: digit (n / 4096 % 64) :: digit (n / 64 % 64) :: digit (n % 64) ::
      encode rest
  | [a, b] =>
    let n := a.toNat * 256 + b.toNat
    [digit (n / 1024), digit (n / 16 % 64), digit (n % 16 * 4), '=']
  | [a] => [digit (a.toNat / 4), digit (a.toNat % 4 * 16), '=', '=']
  | [] => []

def digitValue? (b : UInt8) : Option Nat := alphabet.findIdx? (·.toNat == b.toNat)

def pad : UInt8 := 61

def symbol (offset : Nat) (b : UInt8) : Except Base64Fault Nat :=
  match digitValue? b with
  | some n => .ok n
  | none => .error (.symbol b offset)

def symbols (offset : Nat) : List UInt8 → Except Base64Fault (List Nat)
  | [] => .ok []
  | b :: rest => do
    let n ← symbol offset b
    return n :: (← symbols (offset + 1) rest)

/-- The bytes of up to four symbols. -/
def bytesOf : List Nat → List UInt8
  | [x, y] => [UInt8.ofNat (x * 4 + y / 16)]
  | [x, y, z] => [UInt8.ofNat (x * 4 + y / 16), UInt8.ofNat (y % 16 * 16 + z / 4)]
  | [x, y, z, w] =>
    [UInt8.ofNat (x * 4 + y / 16), UInt8.ofNat (y % 16 * 16 + z / 4), UInt8.ofNat (z % 4 * 64 + w)]
  | _ => []

/-- The bits of the last symbol that no byte takes. -/
def spareBits : List Nat → Nat
  | [_, y] => y % 16
  | [_, _, z] => z % 4
  | _ => 0

/-- The last symbols, at most four, with what fills them up to four. Filling is a fault where it
comes before the third place or before another symbol. -/
def decodeLast (offset : Nat) (cs : List UInt8) : Except Base64Fault (List UInt8) := do
  let body := cs.takeWhile (· ≠ pad)
  let filling := cs.drop body.length
  let values ← symbols offset body
  if filling ≠ [] ∧ (body.length < 2 ∨ filling.any (· ≠ pad)) then
    throw (.symbol pad (offset + body.length))
  if cs ≠ [] ∧ body.length < 2 then throw (.length (offset + body.length))
  if cs.length % 4 ≠ 0 then throw .padding
  if spareBits values ≠ 0 then throw (.lastSymbol (body.getLastD 0) (offset + body.length - 1))
  return bytesOf values

def decodeFrom (offset : Nat) : List UInt8 → Except Base64Fault (List UInt8)
  | a :: b :: c :: d :: e :: rest => do
    let values ← symbols offset [a, b, c, d]
    return bytesOf values ++ (← decodeFrom (offset + 4) (e :: rest))
  | cs => decodeLast offset cs

def decode (cs : List UInt8) : Except Base64Fault (List UInt8) :=
  match cs.getLast? with
  | some b =>
    if cs.length % 4 = 1 ∧ b ≠ pad ∧ (digitValue? b).isNone then
      .error (.symbol b (cs.length - 1))
    else decodeFrom 0 cs
  | none => .ok []

/-! A lenient reading of what stands in lines: white space does not count, the filling may be
missing at the end, and bits that no byte takes do not matter. -/

inductive LineFault where
  | symbol (byte : UInt8)
  | fillingInside
  | fillingAtEnd
  deriving DecidableEq

def isBlank (b : UInt8) : Bool := b ∈ [9, 10, 13, 32]

def value (b : UInt8) : Except LineFault (Option Nat) :=
  if b = pad then .ok none
  else match digitValue? b with
    | some n => .ok (some n)
    | none => .error (.symbol b)

def bytesOfValues (values : List (Option Nat)) : List UInt8 :=
  let values := values.filterMap id
  bytesOf (values.take 4) ++ bytesOf (values.drop 4)

/-- The last symbols, at most eight. Only the last four of them may have filling. -/
def lastLenient (cs : List UInt8) : Except LineFault (List UInt8) := do
  let values ← cs.mapM value
  let split := if 4 < values.length then 4 else 0
  if (values.take split).any Option.isNone then throw .fillingInside
  let last := values.drop split
  let body := last.takeWhile Option.isSome
  let isWhole := (last.drop body.length).all Option.isNone && body.length ≠ 1 &&
    (last.length = 4 || last.length = body.length) && (body.length ≠ 0 || last.length = 0)
  if isWhole then return bytesOfValues (values.take split ++ body) else throw .fillingAtEnd

def lenientFrom : List UInt8 → Except LineFault (List UInt8)
  | a :: b :: c :: d :: e :: f :: g :: h :: i :: rest => do
    let values ← [a, b, c, d, e, f, g, h].mapM value
    let _ ← value i
    if values.any Option.isNone then throw .fillingInside
    return bytesOfValues values ++ (← lenientFrom (i :: rest))
  | cs => lastLenient cs

def decodeLines (cs : List UInt8) : Except LineFault (List UInt8) :=
  lenientFrom (cs.filter (!isBlank ·))

end Base64

end ClusterAccess.Text
