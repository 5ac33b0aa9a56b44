import ClusterAccess.Json.Basic
import ClusterAccess.Text.Decimal

/-!
Numbers in JSON texts: how they are written, and which of them are too large for a double. The
size of a number is judged by its leading digits, as many as fit into 64 bits, scaled by a power
of ten; both are rounded to a double before they are multiplied.
-/

namespace ClusterAccess.Json

open Text (digitsValue roundsToFinite)

/-- A number as it is written. A fraction has at least one digit. -/
structure WrittenNumber where
  negative : Bool
  whole : List Char
  fraction : Option (List Char)
  exponent : Option Int

namespace WrittenNumber

def exponent? (cs : List Char) : Option Int :=
  let (negative, digits) : Bool × List Char := match cs with
    | '-' :: ds => (true, ds)
    | '+' :: ds => (false, ds)
    | ds => (false, ds)
  if digits.isEmpty || !digits.all Char.isDigit then none
  else
    let n : Int := digitsValue digits
    some (if negative then -n else n)

/-- The number that the characters write: digits without a leading zero, then perhaps a fraction
and an exponent. -/
def ofChars? (cs : List Char) : Option WrittenNumber := do
  let (negative, cs) : Bool × List Char := match cs with
    | '-' :: rest => (true, rest)
    | rest => (false, rest)
  let whole := cs.takeWhile Char.isDigit
  if whole.isEmpty || (whole.head? = some '0' && whole.length ≠ 1) then none
  let (fraction, cs) : Option (List Char) × List Char := match cs.dropWhile Char.isDigit with
    | '.' :: rest => (some (rest.takeWhile Char.isDigit), rest.dropWhile Char.isDigit)
    | rest => (none, rest)
  if fraction = some [] then none
  match cs with
  | [] => return ⟨negative, whole, fraction, none⟩
  | e :: rest =>
    if e = 'e' ∨ e = 'E' then return ⟨negative, whole, fraction, some (← exponent? rest)⟩ else none

def significandLimit : Nat := Nat.pow 2 64 - 1

/-- The leading digits as a number, and how many digits follow them. -/
def significand (start : Nat) : List Char → Nat × Nat
  | [] => (start, 0)
  | c :: rest =>
    let next := 10 * start + digitsValue [c]
    if significandLimit < next then (start, rest.length + 1) else significand next rest

def isInRange (n : WrittenNumber) : Bool :=
  let places := n.fraction.getD []
  let (whole, left) := significand 0 n.whole
  let (digits, leftOfPlaces) := significand whole places
  roundsToFinite digits (n.exponent.getD 0 + left - (places.length - leftOfPlaces : Nat))

/-- The value, where the characters are those that write the number. It is an integer if it is
written as one and has 64 bits. -/
def value? (n : WrittenNumber) (cs : List Char) : Option Json :=
  let size := digitsValue n.whole
  let isInteger := n.fraction.isNone && n.exponent.isNone &&
    (if n.negative then 0 < size && size ≤ Nat.pow 2 63 else size < Nat.pow 2 64)
  if isInteger then some (int (if n.negative then -size else size))
  else if n.isInRange then some (real (String.ofList cs))
  else none

end WrittenNumber

end ClusterAccess.Json
