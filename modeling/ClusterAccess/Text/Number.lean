/-!
Reading a bounded natural number. The text is ASCII digits, with any leading zeros and at most
one plus sign in front; the first fault from the left is the one reported.
-/

namespace ClusterAccess.Text

inductive NumberFault where
  | empty
  | invalidDigit
  | tooLarge
  deriving DecidableEq

def NumberFault.message : NumberFault → String
  | .empty => "cannot parse integer from empty string"
  | .invalidDigit => "invalid digit found in string"
  | .tooLarge => "number too large to fit in target type"

def digitValue? (c : Char) : Option Nat :=
  if c.isDigit then some (c.toNat - '0'.toNat) else none

def pushDigit (limit n : Nat) (c : Char) : Except NumberFault Nat :=
  match digitValue? c with
  | none => .error .invalidDigit
  | some d => if 10 * n + d ≤ limit then .ok (10 * n + d) else .error .tooLarge

def readDigits (limit : Nat) (cs : List Char) : Except NumberFault Nat :=
  cs.foldlM (pushDigit limit) 0

def readNumberChars (limit : Nat) : List Char → Except NumberFault Nat
  | [] => .error .empty
  | ['+'] => .error .invalidDigit
  | '+' :: cs => readDigits limit cs
  | cs => readDigits limit cs

/-- The number that the text writes, if it is at most `limit`. -/
def readNumber (limit : Nat) (s : String) : Except NumberFault Nat :=
  readNumberChars limit s.toList

end ClusterAccess.Text
