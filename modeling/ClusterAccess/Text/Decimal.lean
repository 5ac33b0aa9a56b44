/-!
Decimal digits as a number, and whether such a number times a power of ten is in the range of
doubles: rounded once, or with each factor rounded on its own.
-/

namespace ClusterAccess.Text

def digitsValue (cs : List Char) : Nat :=
  cs.foldl (fun n c => 10 * n + (c.toNat - '0'.toNat)) 0

/-- Whether digits times a power of ten round to a double that is not infinite. -/
def isFinite (digits : Nat) (exponent : Int) : Bool :=
  let limit := Nat.pow 2 1024 - Nat.pow 2 970
  if digits = 0 then true
  else if exponent < 0 then
    let drop := exponent.natAbs
    if (Nat.toDigits 10 digits).length ≤ drop then true
    else digits / Nat.pow 10 drop < limit
  else if 400 < exponent then false
  else digits * Nat.pow 10 exponent.toNat < limit

/-- A number rounded to 53 binary digits, a half to the even neighbour. -/
def roundToDouble (n : Nat) : Nat :=
  if n < Nat.pow 2 53 then n
  else
    let unit := Nat.pow 2 (n.log2 - 52)
    let (q, r) := (n / unit, n % unit)
    if 2 * r < unit || (2 * r = unit && q % 2 = 0) then q * unit else (q + 1) * unit

/-- Whether digits times a power of ten are not infinite, where both factors are rounded to a
double before they are multiplied. -/
def roundsToFinite (digits : Nat) (exponent : Int) : Bool :=
  if digits = 0 || exponent < 0 then true
  else if 308 < exponent then false
  else
    roundToDouble digits * roundToDouble (Nat.pow 10 exponent.toNat) <
      Nat.pow 2 1024 - Nat.pow 2 970

def hexValue? (c : Char) : Option Nat :=
  let n := c.toNat
  if 48 ≤ n && n ≤ 57 then some (n - 48)
  else if 65 ≤ n && n ≤ 70 then some (n - 55)
  else if 97 ≤ n && n ≤ 102 then some (n - 87)
  else none

end ClusterAccess.Text
