/-!
The outer form of certificates: values inside values, each with a tag byte, a length in as few bytes
as possible, and so many bytes of content.
-/

namespace ClusterAccess

namespace Certificate

/-- The bytes of a length that is written in more than one byte. -/
def longLength? (count : Nat) (bytes : List UInt8) : Option (Nat × List UInt8) :=
  let digits := bytes.take count
  let n := digits.foldl (fun n b => 256 * n + b.toNat) 0
  let least := if count = 1 then 128 else Nat.pow 256 (count - 1)
  if digits.length = count && least ≤ n then some (n, bytes.drop count) else none

def value? (tag : UInt8) : List UInt8 → Option (List UInt8 × List UInt8)
  | t :: b :: rest => do
    if t ≠ tag then none
    let (length, rest) ←
      if b < 0x80 then some (b.toNat, rest)
      else if 0x81 ≤ b && b ≤ 0x84 then longLength? (b.toNat - 0x80) rest
      else none
    if rest.length < length then none
    return (rest.take length, rest.drop length)
  | _ => none

def integer : UInt8 := 0x02

def bitString : UInt8 := 0x03

def sequence : UInt8 := 0x30

/-- What stands before the first sequence: the version, which may be missing, and the number. -/
def afterNumber? (bytes : List UInt8) : Option (List UInt8) := do
  let bytes := match value? 0xA0 bytes with
    | some (_, rest) => rest
    | none => bytes
  return (← value? integer bytes).2

def skipSequences? : Nat → List UInt8 → Option (List UInt8)
  | 0, bytes => some bytes
  | n + 1, bytes => do skipSequences? n (← value? sequence bytes).2

/-- The signed part: a number, then the algorithm, the issuer, the validity, the subject and its
key, and perhaps extensions. -/
def isSignedPart (bytes : List UInt8) : Bool :=
  match (afterNumber? bytes).bind (skipSequences? 5) with
  | some [] => true
  | some rest => (value? 0xA3 rest).any (·.2.isEmpty)
  | none => false

/-- The signed part of a certificate, before how it is signed and a signature in whole bytes. -/
def signedPart? (bytes : List UInt8) : Option (List UInt8) := do
  let (content, rest) ← value? sequence bytes
  if !rest.isEmpty then none
  let (signed, content) ← value? sequence content
  let (_, content) ← value? sequence content
  let (signature, rest) ← value? bitString content
  if rest.isEmpty && signature.head? = some 0 then return signed else none

end Certificate

def isCertificate (bytes : List UInt8) : Bool :=
  (Certificate.signedPart? bytes).any Certificate.isSignedPart

/-- Whether bytes have the form of a private key: a sequence that begins with a version. -/
def isPrivateKey (bytes : List UInt8) : Bool :=
  match Certificate.value? Certificate.sequence bytes with
  | some (content, []) => (Certificate.value? Certificate.integer content).isSome
  | _ => false

end ClusterAccess
